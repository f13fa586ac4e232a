import TrustAnchor.Duration

/-! How often an operation is tried and how long to wait in between: each delay is the last one
times a factor, up to a limit, and every wait is stretched or shortened at random. -/

namespace TrustAnchor

structure Schedule where
  /-- How often to try; zero means without end. -/
  maxAttempts : Nat
  initialDelay : Duration
  maxDelay : Duration
  multiplier : Binary64
  deriving DecidableEq, Repr

namespace Schedule

/-- Without end, from a tenth of a second to half a minute. -/
def patient : Schedule where
  maxAttempts := 0
  initialDelay := .ofMillis 100
  maxDelay := .ofSeconds 30
  multiplier := .ofNat 2

/-- The patient schedule with an end. -/
def limited (attempts : Nat) : Schedule := { patient with maxAttempts := attempts }

/-- Four attempts, 10, 50 and 250 milliseconds apart. A conflict is over as soon as the latest
version has been read again, so these delays are short. -/
def onConflict : Schedule where
  maxAttempts := 4
  initialDelay := .ofMillis 10
  maxDelay := .ofSeconds 1
  multiplier := .ofNat 5

/-- The factor by which a delay is stretched, for a random number from zero to one: a half to one
and a half. -/
def stretch (u : Binary64) : Binary64 :=
  (Binary64.ofRatio false 1 2).add u

/-- The wait that comes of a delay. -/
def pause (delay : Duration) (u : Binary64) : Except Duration.ConversionFault Duration :=
  Duration.ofBinary64? (delay.toBinary64.mul (stretch u))

/-- The delay that follows a delay. -/
def nextDelay (s : Schedule) (delay : Duration) : Except Duration.ConversionFault Duration :=
  Duration.ofBinary64? ((delay.toBinary64.mul s.multiplier).smaller s.maxDelay.toBinary64)

end Schedule

end TrustAnchor
