import TrustAnchor.Json.Basic

/-! The parts that JSON text consists of, read from the left: words, strings and numbers. A fault is
noticed at a place, which the number of bytes behind it tells. -/

namespace TrustAnchor.Json

/-- What is wrong with a text. -/
inductive Cause where
  | endInValue
  | endInList
  | endInObject
  | endInString
  | expectedValue
  | expectedColon
  | expectedCommaOrBracket
  | expectedCommaOrBrace
  | expectedIdentifier
  | invalidNumber
  | numberTooLarge
  | invalidEscape
  | loneSurrogate
  | endOfEscape
  | controlCharacter
  | keyMustBeString
  | trailingComma
  | trailingCharacters
  | tooDeep
  /-- The text is well formed, but it does not hold what is expected. -/
  | content (text : String)
  deriving DecidableEq, Repr

def Cause.message : Cause → String
  | .endInValue => "EOF while parsing a value"
  | .endInList => "EOF while parsing a list"
  | .endInObject => "EOF while parsing an object"
  | .endInString => "EOF while parsing a string"
  | .expectedValue => "expected value"
  | .expectedColon => "expected `:`"
  | .expectedCommaOrBracket => "expected `,` or `]`"
  | .expectedCommaOrBrace => "expected `,` or `\x7d`"
  | .expectedIdentifier => "expected ident"
  | .invalidNumber => "invalid number"
  | .numberTooLarge => "number out of range"
  | .invalidEscape => "invalid escape"
  | .loneSurrogate => "lone leading surrogate in hex escape"
  | .endOfEscape => "unexpected end of hex escape"
  | .controlCharacter =>
    "control character (\\u0000-\\u001F) found while parsing a string"
  | .keyMustBeString => "key must be a string"
  | .trailingComma => "trailing comma"
  | .trailingCharacters => "trailing characters"
  | .tooDeep => "recursion limit exceeded"
  | .content text => text

/-- A cause, and the number of bytes behind the place at which it was noticed. -/
structure Fault where
  cause : Cause
  left : Nat
  deriving DecidableEq, Repr

/-- Takes something from the left of a text, and hands on the rest. -/
abbrev Reader (α : Type) := List Char → Except Fault (α × List Char)

namespace Scan

def byteCount : List Char → Nat
  | [] => 0
  | c :: rest => c.utf8Size + byteCount rest

/-- A fault before a text. -/
def failBefore {α : Type} (cause : Cause) (text : List Char) : Except Fault α :=
  .error ⟨cause, byteCount text⟩

/-- A fault behind the first byte of a text, if it has one. -/
def failOn {α : Type} (cause : Cause) (text : List Char) : Except Fault α :=
  .error ⟨cause, byteCount text - 1⟩

def skipBlank (text : List Char) : List Char :=
  text.dropWhile fun c => c = ' ' || c = '\n' || c = '\t' || c = '\r'

/-- A word, whose letters follow. -/
def word {α : Type} (value : α) : (letters : List Char) → Reader α
  | [], rest => .ok (value, rest)
  | _ :: _, [] => failBefore .endInValue []
  | l :: letters, c :: rest =>
    if c = l then word value letters rest else failOn .expectedIdentifier (c :: rest)

/-! Strings. -/

private def hexValue? (c : Char) : Option Nat :=
  if c.isDigit then some (c.toNat - 48)
  else if 'a' ≤ c ∧ c ≤ 'f' then some (c.toNat - 87)
  else if 'A' ≤ c ∧ c ≤ 'F' then some (c.toNat - 55)
  else none

/-- Four hexadecimal digits. -/
def codeUnit : Reader Nat := fun text =>
  match (text.take 4).mapM hexValue? with
  | some [a, b, c, d] => .ok (((a * 16 + b) * 16 + c) * 16 + d, text.drop 4)
  | _ =>
    if byteCount text < 4 then failBefore .endInString []
    else .error ⟨.invalidEscape, byteCount text - 4⟩

/-- What a letter stands for behind a backslash. -/
def simpleEscape? : Char → Option Char
  | '"' => some '"'
  | '\\' => some '\\'
  | '/' => some '/'
  | 'b' => some '\x08'
  | 'f' => some '\x0c'
  | 'n' => some '\n'
  | 'r' => some '\r'
  | 't' => some '\t'
  | _ => none

/-- A character behind a backslash. Characters beyond sixteen bits are written as two units, which
must not stand alone. -/
def escape : Reader Char
  | [] => failBefore .endInString []
  | 'u' :: rest => do
    let (high, rest) ← codeUnit rest
    if 0xDC00 ≤ high ∧ high < 0xE000 then failBefore .loneSurrogate rest
    else if high < 0xD800 ∨ 0xE000 ≤ high then return (Char.ofNat high, rest)
    else
      match rest with
      | [] | ['\\'] => failBefore .endInString []
      | '\\' :: 'u' :: rest =>
        let (low, rest) ← codeUnit rest
        if low < 0xDC00 ∨ 0xE000 ≤ low then failBefore .loneSurrogate rest
        else return (Char.ofNat (0x10000 + (high - 0xD800) * 0x400 + (low - 0xDC00)), rest)
      | '\\' :: rest => failOn .endOfEscape rest
      | rest => failOn .endOfEscape rest
  | c :: rest =>
    match simpleEscape? c with
    | some d => .ok (d, rest)
    | none => failOn .invalidEscape (c :: rest)

/-- The rest of a string behind its opening quote; `read` holds what was read of it, backwards, and
the fuel is the length of the text. -/
def string (read : List Char) : (fuel : Nat) → Reader String
  | 0, text => failBefore .endInString text
  | _ + 1, [] => failBefore .endInString []
  | fuel + 1, c :: rest =>
    if c = '"' then .ok (String.ofList read.reverse, rest)
    else if c = '\\' then
      match escape rest with
      | .error f => .error f
      | .ok (d, rest) => string (d :: read) fuel rest
    else if c.toNat < 0x20 then failOn .controlCharacter (c :: rest)
    else string (c :: read) fuel rest

/-- The text behind a string that is of no interest. Its units are not put together. -/
def skipString : (fuel : Nat) → List Char → Except Fault (List Char)
  | 0, text => failBefore .endInString text
  | _ + 1, [] => failBefore .endInString []
  | fuel + 1, c :: rest =>
    if c = '"' then .ok rest
    else if c = '\\' then
      match rest with
      | [] => failBefore .endInString []
      | 'u' :: rest =>
        match codeUnit rest with
        | .error f => .error f
        | .ok (_, rest) => skipString fuel rest
      | d :: rest =>
        if (simpleEscape? d).isSome then skipString fuel rest else failOn .invalidEscape (d :: rest)
    else if c.toNat < 0x20 then failBefore .controlCharacter (c :: rest)
    else skipString fuel rest

/-! Numbers. Digits are collected in 64 bits, and those that do not fit are dropped. A number with a
fraction or an exponent, or one that does not fit, is a double: the digits are rounded, and then
multiplied or divided by a power of ten that is rounded too. -/

private def startsWithDigit : List Char → Bool
  | c :: _ => c.isDigit
  | [] => false

/-- Digits that follow a number as long as it fits into 64 bits: the number, how many there were,
and the rest. -/
def digits64 (n count : Nat) : List Char → Nat × Nat × List Char
  | [] => (n, count, [])
  | c :: rest =>
    let more := n * 10 + (c.toNat - 48)
    if c.isDigit ∧ more < Nat.pow 2 64 then digits64 more (count + 1) rest else (n, count, c :: rest)

/-- Scales down by as much as a double can hold until the exponent is small enough; nothing if the
double is too large. -/
private def scaled : (fuel : Nat) → Binary64 → (exponent : Int) → Option Binary64
  | 0, x, _ => some x
  | fuel + 1, x, e =>
    if e.natAbs ≤ 308 then
      if 0 ≤ e then
        match x.mul (.ofDecimal false 1 e) with
        | .infinity _ => none
        | y => some y
      else some (x.divNat (Nat.pow 10 e.natAbs))
    else
      match x with
      | .finite _ 0 _ => some x
      | x => if 0 ≤ e then none else scaled fuel (x.divNat (Nat.pow 10 308)) (e + 308)

/-- The double of some digits and a power of ten. -/
def double (negative : Bool) (n : Nat) (exponent : Int) (rest : List Char) :
    Except Fault (Json × List Char) :=
  match scaled 4 (.ofNat n) exponent with
  | none => failBefore .numberTooLarge rest
  | some (.finite _ m e) => .ok (.real (.finite negative m e), rest)
  | some x => .ok (.real x, rest)

/-- The digits of an exponent, as long as they fit into 31 bits: the exponent and the rest, or the
rest behind the digit that does not fit. -/
private def exponentDigits (n : Nat) : List Char → Except (List Char) (Nat × List Char)
  | [] => .ok (n, [])
  | c :: rest =>
    if c.isDigit then
      let more := n * 10 + (c.toNat - 48)
      if more < Nat.pow 2 31 then exponentDigits more rest else .error rest
    else .ok (n, c :: rest)

/-- A sign in front of an exponent: whether it is a minus, and the rest. -/
private def exponentSign : List Char → Bool × List Char
  | '+' :: rest => (false, rest)
  | '-' :: rest => (true, rest)
  | rest => (false, rest)

/-- An exponent behind its letter, after digits and the exponent that they have already. -/
def exponent (negative : Bool) (n : Nat) (start : Int) (text : List Char) :
    Except Fault (Json × List Char) :=
  let (down, text) := exponentSign text
  match text with
  | [] => failBefore .endInValue []
  | c :: rest =>
    if !c.isDigit then failOn .invalidNumber (c :: rest)
    else
      match exponentDigits (c.toNat - 48) rest with
      | .ok (e, rest) => double negative n (if down then start - e else start + e) rest
      | .error rest =>
        if n ≠ 0 ∧ !down then failBefore .numberTooLarge rest
        else .ok (.real (.finite negative 0 0), rest.dropWhile Char.isDigit)

/-- What may follow the digits of a double. -/
private def afterDigits (negative : Bool) (n : Nat) (e : Int) :
    List Char → Except Fault (Json × List Char)
  | 'e' :: rest | 'E' :: rest => exponent negative n e rest
  | rest => double negative n e rest

/-- A fraction behind its point. -/
def fraction (negative : Bool) (n : Nat) (start : Int) (text : List Char) :
    Except Fault (Json × List Char) :=
  let (n, count, rest) := digits64 n 0 text
  if startsWithDigit rest then
    afterDigits negative n (start - count) (rest.dropWhile Char.isDigit)
  else if count = 0 then
    failOn (if rest.isEmpty then .endInValue else .invalidNumber) rest
  else afterDigits negative n (start - count) rest

/-- What may follow the digits of a whole number, some of which may have been dropped. -/
private def afterWhole (negative : Bool) (n : Nat) : List Char → Except Fault (Json × List Char)
  | '.' :: rest => fraction negative n 0 rest
  | 'e' :: rest | 'E' :: rest => exponent negative n 0 rest
  | rest =>
    if startsWithDigit rest then
      let dropped := rest.takeWhile Char.isDigit
      match rest.drop dropped.length with
      | '.' :: rest => fraction negative n dropped.length rest
      | rest => afterDigits negative n dropped.length rest
    else if !negative then .ok (.int n, rest)
    else if n = 0 ∨ Nat.pow 2 63 < n then
      double negative n 0 rest
    else .ok (.int (-n), rest)

/-- A number behind its sign. -/
def number (negative : Bool) : Reader Json
  | [] => failBefore .endInValue []
  | '0' :: rest =>
    if startsWithDigit rest then failOn .invalidNumber rest else afterWhole negative 0 rest
  | c :: rest =>
    if c.isDigit then
      let (n, _, rest) := digits64 (c.toNat - 48) 0 rest
      afterWhole negative n rest
    else failOn .invalidNumber (c :: rest)

private def skipExponent (text : List Char) : Except Fault (List Char) :=
  let (_, text) := exponentSign text
  if startsWithDigit text then .ok (text.dropWhile Char.isDigit) else failOn .invalidNumber text

private def skipFraction : List Char → Except Fault (List Char)
  | 'e' :: rest | 'E' :: rest => skipExponent rest
  | '.' :: rest =>
    if !startsWithDigit rest then failOn .invalidNumber rest
    else
      match rest.dropWhile Char.isDigit with
      | 'e' :: rest | 'E' :: rest => skipExponent rest
      | rest => .ok rest
  | rest => .ok rest

/-- The text behind a number that is of no interest. -/
def skipNumber : List Char → Except Fault (List Char)
  | '0' :: rest => if startsWithDigit rest then failOn .invalidNumber rest else skipFraction rest
  | text =>
    if startsWithDigit text then skipFraction (text.dropWhile Char.isDigit)
    else failOn .invalidNumber text

end Scan

end TrustAnchor.Json
