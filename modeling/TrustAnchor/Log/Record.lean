import TrustAnchor.Instant
import TrustAnchor.Json.Printer
import TrustAnchor.Log.Filter

/-! Log records and the two ways of writing them: as a line of text, or as a JSON object on a
line. -/

namespace TrustAnchor.Log

/-- A named text in a record, and the texts of the errors that caused it. -/
structure Field where
  name : String
  text : String
  causes : List String := []
  deriving DecidableEq, Repr

structure Record where
  level : Level
  /-- The part of the program that speaks. -/
  target : String
  message : String
  fields : List Field := []
  deriving DecidableEq, Repr

private def twoDigits (n : Nat) : String := String.ofList (Text.padded 2 n)

/-- A point in time as records show it: in universal time, with microseconds. -/
def stamp (t : Instant) : String :=
  let date := t.utcDate
  let time := (t.unixSeconds % 86400).toNat
  let year := (if date.year < 0 then "-" else "") ++ String.ofList (Text.padded 4 date.year.natAbs)
  year ++ "-" ++ twoDigits date.month ++ "-" ++ twoDigits date.day ++ "T"
    ++ twoDigits (time / 3600) ++ ":" ++ twoDigits (time / 60 % 60) ++ ":" ++ twoDigits (time % 60)
    ++ "." ++ String.ofList (Text.padded 6 (t.subsecond / 1000)) ++ "Z"

private def Field.line (f : Field) : String :=
  f.name ++ "=" ++ f.text ++
    if f.causes.isEmpty then ""
    else " " ++ f.name ++ ".sources=[" ++ String.intercalate ", " f.causes ++ "]"

namespace Record

/-- The message is a field too. -/
def fieldNames (r : Record) : List String := "message" :: r.fields.map (·.name)

/-- The record as a line of text. Levels are aligned on the right. -/
def line (stamp : String) (r : Record) : String :=
  let label := r.level.label
  stamp ++ " " ++ (if label.length < 5 then " " else "") ++ label ++ " " ++ r.target ++ ": "
    ++ String.intercalate " " (r.message :: r.fields.map Field.line) ++ "\n"

/-- Members of a JSON object, in the given order. -/
private def object (members : List (String × String)) : String :=
  "\x7b" ++ String.intercalate "," (members.map fun (k, v) => Json.quote k ++ ":" ++ v) ++ "\x7d"

/-- The record as a JSON object on a line. -/
def jsonLine (stamp : String) (r : Record) : String :=
  let fields := ("message", r.message) :: r.fields.map fun f => (f.name, f.text)
  object [("timestamp", Json.quote stamp), ("level", Json.quote r.level.label),
    ("fields", object (fields.map fun (k, v) => (k, Json.quote v))),
    ("target", Json.quote r.target)] ++ "\n"

end Record

end TrustAnchor.Log
