/-! The proleptic Gregorian calendar. Days are counted from 1970-01-01, years may be zero or
negative, and four hundred years always have the same number of days, so a day is found inside its
era of four hundred years. Inside an era years are taken to begin in March: the leap day is then
the last day of its year. -/

namespace TrustAnchor

/-- A day of the calendar. -/
structure Date where
  year : Int
  month : Nat
  day : Nat
  deriving DecidableEq, Repr

namespace Date

def isLeapYear (y : Int) : Bool := y % 4 = 0 && (y % 100 ≠ 0 || y % 400 = 0)

def daysInMonth (y : Int) : (month : Nat) → Nat
  | 2 => if isLeapYear y then 29 else 28
  | 4 | 6 | 9 | 11 => 30
  | _ => 31

/-- Days in four hundred years. -/
def daysInEra : Int := 146097

/-- Days from the first of March to the first day of a month, counted in months since March. -/
def daysBeforeMonth (sinceMarch : Nat) : Nat := (153 * sinceMarch + 2) / 5

/-- The day counted from 1970-01-01. -/
def toDays (d : Date) : Int :=
  let y := if d.month ≤ 2 then d.year - 1 else d.year
  let sinceMarch := (d.month + 9) % 12
  let yearOfEra := y % 400
  let dayOfYear : Int := daysBeforeMonth sinceMarch + (d.day - 1)
  y / 400 * daysInEra + yearOfEra * 365 + yearOfEra / 4 - yearOfEra / 100 + dayOfYear - 719468

/-- The date of a day counted from 1970-01-01. -/
def ofDays (n : Int) : Date :=
  let shifted := n + 719468
  let dayOfEra := shifted % daysInEra
  let yearOfEra := (dayOfEra - dayOfEra / 1460 + dayOfEra / 36524 - dayOfEra / 146096) / 365
  let dayOfYear := (dayOfEra - (365 * yearOfEra + yearOfEra / 4 - yearOfEra / 100)).toNat
  let sinceMarch := (5 * dayOfYear + 2) / 153
  let month := if sinceMarch < 10 then sinceMarch + 3 else sinceMarch - 9
  let year := shifted / daysInEra * 400 + yearOfEra
  { year := if month ≤ 2 then year + 1 else year
    month
    day := dayOfYear - daysBeforeMonth sinceMarch + 1 }

/-- A date if the calendar has it. -/
def ofParts? (year : Int) (month day : Nat) : Option Date :=
  if 1 ≤ month ∧ month ≤ 12 ∧ 1 ≤ day ∧ day ≤ daysInMonth year month then
    some ⟨year, month, day⟩
  else none

end Date

end TrustAnchor
