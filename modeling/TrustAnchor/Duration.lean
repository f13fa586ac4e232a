import TrustAnchor.Binary64
import TrustAnchor.Text.Digits

/-! Spans of time, counted in nanoseconds. Only the conversion from doubles can fail, and it says
whether the number was negative or out of range. -/

namespace TrustAnchor

/-- A span of time that is never negative. -/
structure Duration where
  nanos : Nat
  deriving DecidableEq, Repr, Inhabited

namespace Duration

/-- Nanoseconds in a second. -/
def perSecond : Nat := 1000000000

def ofSeconds (s : Nat) : Duration := ⟨s * perSecond⟩

def ofMillis (ms : Nat) : Duration := ⟨ms * 1000000⟩

/-- Whole seconds. -/
def seconds (d : Duration) : Nat := d.nanos / perSecond

/-- Nanoseconds past the last whole second. -/
def subsecond (d : Duration) : Nat := d.nanos % perSecond

/-- Whole milliseconds. -/
def millis (d : Duration) : Nat := d.nanos / 1000000

/-- The least number of milliseconds that covers the span. -/
def millisUp (d : Duration) : Nat := (d.nanos + 999999) / 1000000

def smaller (a b : Duration) : Duration := if b.nanos < a.nanos then b else a

/-- The span in seconds as a double: seconds and subseconds are converted apart, then added. -/
def toBinary64 (d : Duration) : Binary64 :=
  (Binary64.ofNat d.seconds).add ((Binary64.ofNat d.subsecond).divNat perSecond)

/-- Why a double is no span of time. -/
inductive ConversionFault where
  | negative
  | tooBig
  deriving DecidableEq, Repr

def ConversionFault.message : ConversionFault → String
  | .negative => "cannot convert float seconds to Duration: value is negative"
  | .tooBig => "cannot convert float seconds to Duration: value is either too big or NaN"

/-- Seconds given as a double, to the nearest nanosecond and to the even one of two equally near.
Seconds have to fit 64 bits. -/
def ofBinary64? : Binary64 → Except ConversionFault Duration
  | .nan => .error .tooBig
  | .infinity negative => .error (if negative then .negative else .tooBig)
  | .finite negative m e =>
    if negative ∧ m ≠ 0 then .error .negative
    else
      let n := if 0 ≤ e then m * Nat.pow 2 e.toNat else m
      let d := if 0 ≤ e then 1 else Nat.pow 2 (-e).toNat
      if Nat.pow 2 64 * d ≤ n then .error .tooBig
      else .ok ⟨Binary64.divNearest (n * perSecond) d⟩

/-- A fraction of a unit: its digits in `width` places without the zeros at the end, after a
point, or nothing at all when it is zero. -/
private def fractionText (width part : Nat) : List Char :=
  if part = 0 then []
  else '.' :: Text.trimZeros (Text.padded width part)

/-- The span in the largest unit that gives a whole part: seconds, milliseconds, microseconds or
nanoseconds. -/
def text (d : Duration) : String :=
  let n := d.nanos
  let inUnit (unit width : Nat) (name : String) :=
    (n / unit).repr ++ String.ofList (fractionText width (n % unit)) ++ name
  if perSecond ≤ n then inUnit perSecond 9 "s"
  else if 1000000 ≤ n then inUnit 1000000 6 "ms"
  else if 1000 ≤ n then inUnit 1000 3 "µs"
  else inUnit 1 0 "ns"

end Duration

end TrustAnchor
