import TrustAnchor.Calendar
import TrustAnchor.Duration
import TrustAnchor.Text.Digits

/-! Points in time with the offset from universal time at which they are seen. The offset matters
for printing only: order and differences look at the point in time alone. -/

namespace TrustAnchor

/-- A point in time, in nanoseconds from the start of 1970, and an offset in seconds. -/
structure Instant where
  nanos : Int
  offset : Int := 0
  deriving DecidableEq, Repr, Inhabited

namespace Instant

/-- The point in time a number of seconds and nanoseconds after the start of 1970. -/
def ofUnix (seconds : Int) (nanos : Nat) (offset : Int) : Instant :=
  ⟨seconds * 1000000000 + nanos, offset⟩

/-- Whole seconds from the start of 1970, rounded down. -/
def unixSeconds (t : Instant) : Int := t.nanos / 1000000000

/-- Nanoseconds past the last whole second. -/
def subsecond (t : Instant) : Nat := (t.nanos % 1000000000).toNat

/-- The same point in time. -/
def same (t u : Instant) : Bool := t.nanos = u.nanos

/-- The last whole second. -/
def wholeSecond (t : Instant) : Instant := { t with nanos := t.unixSeconds * 1000000000 }

/-- Seconds shown by a clock at the offset, counted as if it were universal time. -/
def localSeconds (t : Instant) : Int := t.unixSeconds + t.offset

/-- The date shown at the offset. -/
def localDate (t : Instant) : Date := Date.ofDays (t.localSeconds / 86400)

/-- The date in universal time. -/
def utcDate (t : Instant) : Date := Date.ofDays (t.unixSeconds / 86400)

/-- The last second that a clock can show, at the end of the year 9999. -/
def lastSecond : Int := 253402300799

/-- The point in time after a span, if a clock at the offset can still show it. -/
def after? (t : Instant) (d : Duration) : Option Instant :=
  let u := { t with nanos := t.nanos + d.nanos }
  if u.localSeconds ≤ lastSecond then some u else none

/-- The span from `now` to a later point in time. -/
def since? (t now : Instant) : Option Duration :=
  if now.nanos < t.nanos then some ⟨(t.nanos - now.nanos).toNat⟩ else none

private def padded (width : Nat) (n : Nat) : String := String.ofList (Text.padded width n)

private def yearText (y : Int) : String :=
  (if y < 0 then "-" else if 9999 < y then "+" else "") ++ padded 4 y.natAbs

/-- Nine digits without the zeros at the end, but always one digit. -/
private def fractionText (nanos : Nat) : String :=
  match Text.trimZeros (Text.padded 9 nanos) with
  | [] => "0"
  | digits => String.ofList digits

private def offsetText (offset : Int) : String :=
  let n := offset.natAbs
  (if offset < 0 then "-" else "+") ++ padded 2 (n / 3600) ++ ":" ++ padded 2 (n / 60 % 60)
    ++ ":" ++ padded 2 (n % 60)

/-- The date, the time of day with an unpadded hour and a fraction, and the offset. -/
def text (t : Instant) : String :=
  let date := t.localDate
  let time := (t.localSeconds % 86400).toNat
  yearText date.year ++ "-" ++ padded 2 date.month ++ "-" ++ padded 2 date.day ++ " "
    ++ (time / 3600).repr ++ ":" ++ padded 2 (time / 60 % 60) ++ ":" ++ padded 2 (time % 60)
    ++ "." ++ fractionText t.subsecond ++ " " ++ offsetText t.offset

end Instant

end TrustAnchor
