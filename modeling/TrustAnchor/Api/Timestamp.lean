import TrustAnchor.Calendar
import TrustAnchor.Text.Blank
import TrustAnchor.Text.Digits

/-! Points in time as objects carry them. They are read leniently, with blanks between the parts and
at any offset, and written in universal time with whole seconds. -/

namespace TrustAnchor.Api

/-- A second of universal time. -/
structure Timestamp where
  /-- Seconds from the start of 1970. -/
  seconds : Int
  /-- The second that is inserted behind this one is meant. -/
  isLeap : Bool
  deriving DecidableEq, Repr

/-- Why a text is no point in time. -/
inductive TimestampFault where
  | outOfRange
  | impossible
  | invalid
  | tooShort
  | tooLong
  deriving DecidableEq, Repr

def TimestampFault.message : TimestampFault → String
  | .outOfRange => "input is out of range"
  | .impossible => "no possible date and time matching input"
  | .invalid => "input contains invalid characters"
  | .tooShort => "premature end of input"
  | .tooLong => "trailing input"

namespace Timestamp

private abbrev Part (α : Type) := List Char → Except TimestampFault (α × List Char)

private def skipBlank (text : List Char) : List Char := text.dropWhile Text.isBlank

/-- A number of at least one digit, and at most so many if there is a limit. -/
private def number (width : Option Nat) : Part Nat
  | [] => .error .tooShort
  | text =>
    let digits := (width.elim text text.take).takeWhile Char.isDigit
    match Text.decimal? digits with
    | none => .error .invalid
    | some n => .ok (n, text.drop digits.length)

private def year (text : List Char) : Except TimestampFault (Int × List Char) := do
  let (y, rest) ← match skipBlank text with
    | '-' :: rest => (number none rest).map fun (n, rest) => (-(n : Int), rest)
    | '+' :: rest => (number none rest).map fun (n, rest) => ((n : Int), rest)
    | rest => (number (some 4) rest).map fun (n, rest) => ((n : Int), rest)
  if y < -(Nat.pow 2 31 : Int) ∨ Nat.pow 2 31 ≤ y then .error .outOfRange else .ok (y, rest)

/-- A number of up to two digits within bounds. -/
private def pair (low high : Nat) : Part Nat := fun text => do
  let (n, rest) ← number (some 2) (skipBlank text)
  if low ≤ n ∧ n ≤ high then .ok (n, rest) else .error .outOfRange

/-- A character, perhaps behind blanks. -/
private def sign (c : Char) (text : List Char) : Except TimestampFault (List Char) :=
  match skipBlank text with
  | [] => .error .tooShort
  | d :: rest => if d = c then .ok rest else .error .invalid

private def fraction : List Char → Except TimestampFault (List Char)
  | '.' :: rest => do return (← number none rest).2
  | rest => .ok rest

/-- The next two characters. -/
private def two : Part (Char × Char)
  | [] => .error .tooShort
  | [a] => .error (if a.utf8Size < 2 then .tooShort else .invalid)
  | a :: b :: rest => .ok ((a, b), rest)

private def digitsValue (a b : Char) : Int := (a.toNat - 48) * 10 + (b.toNat - 48)

/-- Hours and minutes, in seconds. -/
private def span (text : List Char) : Except TimestampFault (Int × List Char) := do
  let ((a, b), rest) ← two text
  if !(a.isDigit && b.isDigit) then throw .invalid
  let ((c, d), rest) ← two (rest.dropWhile fun c => c = ':' || Text.isBlank c)
  if !(c.isDigit && d.isDigit) then throw .invalid
  if '5' < c then throw .outOfRange
  return (digitsValue a b * 3600 + digitsValue c d * 60, rest)

/-- The offset from universal time, in seconds. -/
private def offset (text : List Char) : Except TimestampFault (Int × List Char) :=
  match skipBlank text with
  | [] => .error .tooShort
  | c :: rest =>
    if ((c :: rest).take 3).map Char.toUpper = ['U', 'T', 'C'] then .ok (0, rest.drop 2)
    else if c = 'Z' ∨ c = 'z' then .ok (0, rest)
    else if c = '+' then span rest
    else if c = '-' ∨ c = '−' then (span rest).map fun (n, rest) => (-n, rest)
    else .error .invalid

/-- The years that can be represented. -/
private def firstYear : Int := -262143
private def lastYear : Int := 262142

/-- Puts the parts together. -/
private def assemble (year : Int) (month day hour minute second : Nat) (offset : Int) :
    Except TimestampFault Timestamp :=
  match Date.ofParts? year month day with
  | none => .error .outOfRange
  | some date =>
    if year < firstYear ∨ lastYear < year ∨ 86400 ≤ offset.natAbs then .error .outOfRange
    else
      let seconds := date.toDays * 86400 + hour * 3600 + minute * 60 + (min second 59 : Nat) - offset
      let shown := (Date.ofDays (seconds / 86400)).year
      if shown < firstYear ∨ lastYear < shown then .error .impossible
      else .ok ⟨seconds, second = 60⟩

/-- The point in time that a text tells. -/
def read (text : String) : Except TimestampFault Timestamp := do
  let (y, rest) ← year text.toList
  let (month, rest) ← pair 1 12 (← sign '-' rest)
  let (day, rest) ← pair 1 31 (← sign '-' rest)
  let rest ← match rest with
    | [] => throw .tooShort
    | c :: rest => if c = 'T' ∨ c = 't' ∨ c = ' ' then pure rest else throw .invalid
  let (hour, rest) ← pair 0 23 rest
  let (minute, rest) ← pair 0 59 (← sign ':' rest)
  let (second, rest) ← pair 0 60 (← sign ':' rest)
  let (offset, rest) ← offset (← fraction rest)
  if !(skipBlank rest).isEmpty then throw .tooLong
  assemble y month day hour minute second offset

private def twoDigits (n : Nat) : List Char := Text.padded 2 n

/-- Four digits of the year, or more and a sign. -/
private def yearText (y : Int) : List Char :=
  if 0 ≤ y ∧ y ≤ 9999 then Text.padded 4 y.natAbs
  else (if y < 0 then '-' else '+') :: Text.padded 4 y.natAbs

def text (t : Timestamp) : String :=
  let date := Date.ofDays (t.seconds / 86400)
  let time := (t.seconds % 86400).toNat
  let second := time % 60 + if t.isLeap then 1 else 0
  String.ofList (yearText date.year ++ '-' :: twoDigits date.month ++ '-' :: twoDigits date.day
    ++ 'T' :: twoDigits (time / 3600) ++ ':' :: twoDigits (time / 60 % 60)
    ++ ':' :: twoDigits second ++ ['Z'])

end Timestamp

end TrustAnchor.Api
