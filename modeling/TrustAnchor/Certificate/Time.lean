import TrustAnchor.Instant
import TrustAnchor.Text.Utf8

/-! Points in time as certificates hold them: a short form with two digits of the year, meant for
1950 to 2049, and a long form with four digits and an optional fraction of a second. -/

namespace TrustAnchor.Certificate.Time

/-- A time of day and date by its parts, at an offset in seconds. -/
structure Parts where
  year : Int
  month : Nat
  day : Nat
  hour : Nat
  minute : Nat
  second : Nat
  millis : Nat := 0
  offset : Int := 0

/-- The point in time, if calendar and clock have it. -/
def Parts.instant? (p : Parts) : Option Instant := do
  guard (p.hour ≤ 23 ∧ p.minute ≤ 59 ∧ p.second ≤ 59)
  let date ← Date.ofParts? p.year p.month p.day
  let seconds := date.toDays * 86400 + p.hour * 3600 + p.minute * 60 + p.second - p.offset
  return .ofUnix seconds (p.millis * 1000000) p.offset

/-- The number that two digits spell. -/
private def pair (a b : Char) : Option Nat := Text.decimal? [a, b]

/-- The offset from universal time: `Z` for none, otherwise a sign, hours and minutes. The sign is
that of the hours, so it says nothing when there are none. -/
private def offset? : List Char → Option Int
  | ['Z'] => some 0
  | [sign, h, h', m, m'] => do
    let hours ← pair h h'
    let minutes ← pair m m'
    guard (hours ≤ 25 ∧ minutes ≤ 59)
    let seconds : Int := hours * 3600 + minutes * 60
    if sign = '+' then return seconds
    else if sign = '-' then return if hours = 0 then seconds else -seconds
    else none
  | _ => none

/-- Month, day, hour, minute, and the second unless at most one character follows them. -/
private def readTail (year : Int) : List Char → Option (Parts × List Char)
  | o :: o' :: d :: d' :: h :: h' :: m :: m' :: rest => do
    let month ← pair o o'
    let day ← pair d d'
    let hour ← pair h h'
    let minute ← pair m m'
    match rest with
    | s :: s' :: rest => return ({ year, month, day, hour, minute, second := ← pair s s' }, rest)
    | rest => return ({ year, month, day, hour, minute, second := 0 }, rest)
  | _ => none

/-- The short form: years from 50 on belong to the twentieth century. -/
def readShort? : List Char → Option Instant
  | y :: y' :: rest => do
    let year ← pair y y'
    let (parts, rest) ← readTail (if 50 ≤ year then 1900 + year else 2000 + year) rest
    Parts.instant? { parts with offset := ← offset? rest }
  | _ => none

/-- Up to three digits of a fraction after the point, as thousandths of a second. -/
private def readFraction : List Char → Option (Nat × List Char)
  | '.' :: rest => do
    let digits := rest.takeWhile Char.isDigit
    guard (digits.length ≤ 3)
    let thousandths := (Text.decimal? digits).getD 0 * Nat.pow 10 (3 - digits.length)
    return (thousandths, rest.dropWhile Char.isDigit)
  | rest => some (0, rest)

/-- The long form, in universal time. -/
def readLong? : List Char → Option Instant
  | y :: y' :: y'' :: y''' :: rest => do
    let year ← Text.decimal? [y, y', y'', y''']
    let (parts, rest) ← readTail year rest
    let (millis, rest) ← readFraction rest
    guard (rest = ['Z'])
    Parts.instant? { parts with millis }
  | _ => none

end TrustAnchor.Certificate.Time
