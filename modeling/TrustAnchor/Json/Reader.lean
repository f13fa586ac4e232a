import TrustAnchor.Json.Scan

/-! JSON values read from text, and the ways of reading lists and objects part by part. A fault is
reported with the line and the column at which it was noticed. -/

namespace TrustAnchor.Json

namespace Scan

/-- Whether a further part of a list or an object comes, and the text from it on; else the text
behind the bracket that closes it. -/
def next (close : Char) (ended missing : Cause) (isFirst : Bool) : Reader Bool := fun text =>
  match skipBlank text with
  | [] => failBefore ended []
  | c :: rest =>
    if c = close then .ok (false, rest)
    else if isFirst then .ok (true, c :: rest)
    else if c ≠ ',' then failOn missing (c :: rest)
    else
      match skipBlank rest with
      | [] => failBefore .endInValue []
      | d :: rest => if d = close then failOn .trailingComma (d :: rest) else .ok (true, d :: rest)

/-- The items of a list behind its bracket. The fuel is the length of the text, here and below. -/
def items {α : Type} (item : Reader α) : (fuel : Nat) → (isFirst : Bool) → Reader (List α)
  | 0, _, text => failBefore .endInList text
  | fuel + 1, isFirst, text => do
    let (more, text) ← next ']' .endInList .expectedCommaOrBracket isFirst text
    if !more then return ([], text)
    else
      let (x, text) ← item text
      let (xs, text) ← items item fuel false text
      return (x :: xs, text)

/-- The text behind the colon that follows a key. -/
def colon (text : List Char) : Except Fault (List Char) :=
  match skipBlank text with
  | [] => failBefore .endInObject []
  | ':' :: rest => .ok rest
  | text => failOn .expectedColon text

/-- A key and the colon behind it. -/
def key (fuel : Nat) : Reader String
  | '"' :: rest => do
    let (name, rest) ← string [] fuel rest
    return (name, ← colon rest)
  | text => failOn .keyMustBeString text

/-- The members of an object behind its brace. -/
def members {α : Type} (member : String → Reader α) :
    (fuel : Nat) → (isFirst : Bool) → Reader (List α)
  | 0, _, text => failBefore .endInObject text
  | fuel + 1, isFirst, text => do
    let (more, text) ← next '\x7d' .endInObject .expectedCommaOrBrace isFirst text
    if !more then return ([], text)
    else
      let (name, text) ← key fuel text
      let (x, text) ← member name text
      let (xs, text) ← members member fuel false text
      return (x :: xs, text)

/-- The text of a value without the white space before it. -/
def start (text : List Char) : Except Fault (List Char) :=
  match skipBlank text with
  | [] => failBefore .endInValue []
  | text => .ok text

/-- A value in which lists and objects are nested up to a depth. -/
def value (fuel : Nat) : (depth : Nat) → Reader Json
  | 0, text => do
    match ← start text with
    | '"' :: rest => return (← string [] fuel rest).map .str id
    | 'n' :: rest => word .null ['u', 'l', 'l'] rest
    | 't' :: rest => word (.bool true) ['r', 'u', 'e'] rest
    | 'f' :: rest => word (.bool false) ['a', 'l', 's', 'e'] rest
    | '-' :: rest => number true rest
    | c :: rest =>
      if c.isDigit then number false (c :: rest)
      else failOn (if c = '[' ∨ c = '\x7b' then .tooDeep else .expectedValue) (c :: rest)
    | [] => failBefore .endInValue []
  | depth + 1, text => do
    match ← start text with
    | '[' :: rest => return (← items (value fuel depth) fuel true rest).map .arr id
    | '\x7b' :: rest =>
      let member (name : String) : Reader (String × Json) := fun text => do
        let (x, text) ← value fuel depth text
        return ((name, x), text)
      return (← members member fuel true rest).map .obj id
    | text => value fuel 0 text

/-- How deep values may be nested. -/
def maxDepth : Nat := 127

mutual
/-- The text behind a value that is of no interest. It may be nested as deep as it likes. -/
def skip : (fuel : Nat) → List Char → Except Fault (List Char)
  | 0, text => failBefore .endInValue text
  | fuel + 1, text => do
    match ← start text with
    | '"' :: rest => skipString fuel rest
    | 'n' :: rest => (·.2) <$> word () ['u', 'l', 'l'] rest
    | 't' :: rest => (·.2) <$> word () ['r', 'u', 'e'] rest
    | 'f' :: rest => (·.2) <$> word () ['a', 'l', 's', 'e'] rest
    | '-' :: rest => skipNumber rest
    | '[' :: rest => skipItems fuel true rest
    | '\x7b' :: rest => skipMembers fuel true rest
    | c :: rest => if c.isDigit then skipNumber (c :: rest) else failOn .expectedValue (c :: rest)
    | [] => failBefore .endInValue []

def skipItems : (fuel : Nat) → (isFirst : Bool) → List Char → Except Fault (List Char)
  | 0, _, text => failBefore .endInList text
  | fuel + 1, isFirst, text =>
    match skipBlank text with
    | [] => failBefore .endInList []
    | ']' :: rest => .ok rest
    | c :: rest => do
      if isFirst then skipItems fuel false (← skip fuel (c :: rest))
      else if c = ',' then skipItems fuel false (← skip fuel rest)
      else failOn .expectedCommaOrBracket (c :: rest)

def skipMembers : (fuel : Nat) → (isFirst : Bool) → List Char → Except Fault (List Char)
  | 0, _, text => failBefore .endInObject text
  | fuel + 1, isFirst, text =>
    match skipBlank text with
    | [] => failBefore .endInObject []
    | '\x7d' :: rest => .ok rest
    | c :: rest =>
      if !isFirst && c ≠ ',' then failOn .expectedCommaOrBrace (c :: rest)
      else
        match skipBlank (if isFirst then c :: rest else rest) with
        | [] => failBefore .endInObject []
        | '"' :: rest => do
          let rest ← skipString fuel rest
          let rest ← colon rest
          skipMembers fuel false (← skip fuel rest)
        | text => failOn .keyMustBeString text
end

end Scan

namespace Fault

/-- Line and column behind so many bytes of a text, counted in bytes as well. -/
private def position (line column : Nat) : (bytes : Nat) → List Char → Nat × Nat
  | bytes, [] => (line, column + bytes)
  | bytes, c :: rest =>
    if bytes < c.utf8Size then (line, column + bytes)
    else if c = '\n' then position (line + 1) 0 (bytes - c.utf8Size) rest
    else position line (column + c.utf8Size) (bytes - c.utf8Size) rest

/-- The fault with its place in the text. -/
def message (text : List Char) (f : Fault) : String :=
  let (line, column) := position 1 0 (Scan.byteCount text - f.left) text
  f.cause.message ++ " at line " ++ line.repr ++ " column " ++ column.repr

end Fault

/-- What a reader makes of a whole text. The reader is told the length of the text. -/
def readWith {α : Type} (reader : (fuel : Nat) → Reader α) (text : String) : Except String α :=
  let cs := text.toList
  let result := do
    let (x, rest) ← reader (cs.length + 1) cs
    match Scan.skipBlank rest with
    | [] => return x
    | rest => Scan.failOn .trailingCharacters rest
  result.mapError (·.message cs)

/-- The value that a text consists of. -/
def read (text : String) : Except String Json :=
  readWith (fun fuel => Scan.value fuel Scan.maxDepth) text

end TrustAnchor.Json
