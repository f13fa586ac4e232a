import TrustAnchor.Api.Timestamp
import TrustAnchor.Base64
import TrustAnchor.Binary64.Shortest
import TrustAnchor.Json.Reader
import TrustAnchor.Text.Quoted
import TrustAnchor.Text.Utf8

/-! Shapes of JSON values, as the API defines them for its objects. A value is read from text straight
into its shape, so of several faults the first one in the text is found: members that the shape does
not know and members that are null are dropped, and members that must not be missing are added. -/

namespace TrustAnchor.Api

open Json (Reader Fault)
open Json.Scan

mutual
inductive Shape where
  | text
  /-- A whole number of so many bits, with a sign. -/
  | integer (bits : Nat)
  | flag
  /-- Bytes in base64. Null stands for none. -/
  | bytes
  | time
  | any
  | list (item : Shape)
  | map (value : Shape)
  | record (name : String) (fields : List Field)

inductive Field where
  /-- A member that may be missing. -/
  | optional (key : String) (shape : Shape)
  /-- A member that has a value when it is missing. -/
  | default (key : String) (shape : Shape) (value : Json)
  /-- A member that can have one value only and is not kept. -/
  | fixed (key value : String)
end

namespace Shape

/-- A value, as a fault names it. -/
def describe : Json → String
  | .null => "null"
  | .bool b => "boolean `" ++ (if b then "true" else "false") ++ "`"
  | .int n => "integer `" ++ toString n ++ "`"
  | .real (.finite negative m e) => "floating point `" ++ Binary64.shortest negative m e ++ "`"
  | .real _ => "floating point `NaN`"
  | .str s => "string " ++ Text.quoted s
  | .arr _ => "sequence"
  | .obj _ => "map"

/-- A value of another type than the one expected. Lists and objects are not read. -/
private def mismatch {α : Type} (fuel : Nat) (expected : String) (text : List Char) :
    Except Fault α := do
  let fault (j : Json) (rest : List Char) : Except Fault α :=
    failBefore (.content ("invalid type: " ++ describe j ++ ", expected " ++ expected)) rest
  match ← start text with
  | '[' :: rest => fault (.arr []) ('[' :: rest)
  | '\x7b' :: rest => fault (.obj []) ('\x7b' :: rest)
  | cs =>
    let (j, rest) ← value fuel 0 cs
    fault j rest

private def unexpected {α : Type} (j : Json) (expected : String) (rest : List Char) :
    Except Fault α :=
  failBefore (.content ("invalid value: " ++ describe j ++ ", expected " ++ expected)) rest

/-- A string. -/
def readText (fuel : Nat) (expected : String) : Reader String := fun text => do
  match ← start text with
  | '"' :: rest => string [] fuel rest
  | cs => mismatch fuel expected cs

private def readInteger (fuel bits : Nat) : Reader Json := fun text => do
  let expected := "i" ++ bits.repr
  let (j, rest) ← match ← start text with
    | '-' :: rest => number true rest
    | c :: rest =>
      if c.isDigit then number false (c :: rest) else mismatch fuel expected (c :: rest)
    | [] => failBefore .endInValue []
  match j with
  | .int n =>
    if -(Nat.pow 2 (bits - 1) : Int) ≤ n ∧ n < Nat.pow 2 (bits - 1) then return (j, rest)
    else unexpected j expected rest
  | j => failBefore (.content ("invalid type: " ++ describe j ++ ", expected " ++ expected)) rest

private def readFlag (fuel : Nat) : Reader Json := fun text => do
  match ← start text with
  | 't' :: rest => word (.bool true) ['r', 'u', 'e'] rest
  | 'f' :: rest => word (.bool false) ['a', 'l', 's', 'e'] rest
  | cs => mismatch fuel "a boolean" cs

private def readBytes (fuel : Nat) : Reader Json := fun text => do
  match ← start text with
  | 'n' :: rest => word (.str "") ['u', 'l', 'l'] rest
  | cs =>
    let (s, rest) ← readText fuel "a base64-encoded string" cs
    match Base64.decode (Text.Utf8.encode s) with
    | .ok _ => return (.str s, rest)
    | .error fault => failBefore (.content fault.message) rest

private def readTime (fuel : Nat) : Reader Json := fun text => do
  let (s, rest) ← readText fuel "an RFC 3339 formatted date and time string" text
  match Timestamp.read s with
  | .ok t => return (.str t.text, rest)
  | .error fault => failBefore (.content fault.message) rest

/-- What is left where a list stands in the place of a record: the list is left at its first item,
or at what follows a comma there. -/
private def behindBracket (text : List Char) : List Char :=
  match skipBlank text with
  | ']' :: rest => rest
  | ',' :: rest => skipBlank rest
  | rest => rest

/-- What is left behind a member with which a record cannot go on. -/
private def behindMember (text : List Char) : List Char :=
  match skipBlank text with
  | '\x7d' :: rest => rest
  | rest => rest

private def readFixed (fuel : Nat) (value : String) : Reader Json := fun text => do
  let (s, rest) ← readText fuel "a string" text
  if s = value then return (.null, rest) else unexpected (.str s) value (behindMember rest)

/-- The members that a record keeps, of those that were read. The last of several with one key
counts, and null counts as none. -/
private def kept (members : List (String × Json)) : Field → List (String × Json)
  | .optional key _ => ((Json.obj members).field? key).toList.map (key, ·)
  | .default key _ value => [(key, ((Json.obj members).field? key).getD value)]
  | .fixed .. => []

mutual
/-- A value in a shape; lists and objects may be nested up to a depth. -/
def read (fuel : Nat) : Shape → (depth : Nat) → Reader Json
  | .text, _, cs => return (← readText fuel "a string" cs).map .str id
  | .integer bits, _, cs => readInteger fuel bits cs
  | .flag, _, cs => readFlag fuel cs
  | .bytes, _, cs => readBytes fuel cs
  | .time, _, cs => readTime fuel cs
  | .any, depth, cs => value fuel depth cs
  | .list item, depth, cs => do
    match ← start cs with
    | '[' :: rest =>
      if depth = 0 then failOn .tooDeep ('[' :: rest)
      else return (← items (read fuel item (depth - 1)) fuel true rest).map .arr id
    | cs => mismatch fuel "a sequence" cs
  | .map shape, depth, cs => do
    match ← start cs with
    | '\x7b' :: rest =>
      let member (name : String) : Reader (String × Json) := fun cs => do
        let (x, rest) ← read fuel shape (depth - 1) cs
        return ((name, x), rest)
      if depth = 0 then failOn .tooDeep ('\x7b' :: rest)
      else return (← members member fuel true rest).map .obj id
    | cs => mismatch fuel "a map" cs
  | .record name fields, depth, cs => do
    match ← start cs with
    | '[' :: rest =>
      if depth = 0 then failOn .tooDeep ('[' :: rest)
      else mismatchedList name rest
    | '\x7b' :: rest =>
      let member (name : String) : Reader (String × Json) := fun cs => do
        let (x, rest) ← readMember fuel fields name (depth - 1) cs
        return ((name, x), rest)
      if depth = 0 then failOn .tooDeep ('\x7b' :: rest)
      else
        let (found, rest) ← members member fuel true rest
        return (.obj (fields.flatMap (kept found)), rest)
    | cs => mismatch fuel name cs
where
  mismatchedList (name : String) (rest : List Char) : Except Fault (Json × List Char) :=
    failBefore (.content ("invalid type: sequence, expected " ++ name)) (behindBracket rest)

/-- The value of a member of a record; null if the record does not know it. -/
def readMember (fuel : Nat) : List Field → (name : String) → (depth : Nat) → Reader Json
  | [], _, _, cs => do return (.null, ← skip fuel cs)
  | field :: rest, name, depth, cs => do
    match ← readField fuel field name depth cs with
    | some (x, rest) => return (x, rest)
    | none => readMember fuel rest name depth cs

/-- The value of a member, if the field is the one of that name. -/
def readField (fuel : Nat) : Field → (name : String) → (depth : Nat) → List Char →
    Except Fault (Option (Json × List Char))
  | .optional key shape, name, depth, cs => do
    if key ≠ name then return none
    match ← start cs with
    | 'n' :: rest => return some (← word .null ['u', 'l', 'l'] rest)
    | cs => return some (← read fuel shape depth cs)
  | .default key shape _, name, depth, cs => do
    if key ≠ name then return none
    match ← start cs with
    | 'n' :: rest => return some (← word .null ['u', 'l', 'l'] rest)
    | cs => return some (← read fuel shape depth cs)
  | .fixed key value, name, _, cs => do
    if key ≠ name then return none
    return some (← readFixed fuel value cs)
end

end Shape

end TrustAnchor.Api
