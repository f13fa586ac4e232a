import TrustAnchor.Text.Alphanumeric
import TrustAnchor.Text.Blank

/-! Whether a text is a pattern: the regular expressions that values can be compared with. Only the
form is of interest here. A pattern is read from the left, with a list of the groups that are
open; there are no braces in it that are closed, so a counted repetition or a name in braces never
comes to its end. -/

namespace TrustAnchor.Log

namespace Pattern

/-- Modes of reading that a pattern may switch. -/
structure Modes where
  /-- Characters rather than bytes are matched. -/
  unicode : Bool := true
  /-- White space and comments have no meaning. -/
  spaced : Bool := false
  deriving DecidableEq, Repr

/-- The reading so far. -/
structure Progress where
  modes : Modes := {}
  /-- The modes to return to behind each open group, the innermost first. -/
  groups : List Modes := []
  /-- There is something before that can be repeated. -/
  repeatable : Bool := false
  names : List (List Char) := []
  deriving DecidableEq, Repr

private def skipBlank (m : Modes) : List Char → List Char
  | [] => []
  | c :: rest =>
    if !m.spaced then c :: rest
    else if Text.isBlank c then skipBlank m rest
    else if c = '#' then skipComment m rest
    else c :: rest
where
  skipComment (m : Modes) : List Char → List Char
    | [] => []
    | c :: rest => if c = '\n' then skipBlank m rest else skipComment m rest

private def hexValue? (c : Char) : Option Nat :=
  if c.isDigit then some (c.toNat - 48)
  else if 'a' ≤ c ∧ c ≤ 'f' then some (c.toNat - 87)
  else if 'A' ≤ c ∧ c ≤ 'F' then some (c.toNat - 55)
  else none

/-- The number of so many digits, and the rest. -/
private def hexNumber (m : Modes) : Nat → Nat → List Char → Option (Nat × List Char)
  | 0, n, text => some (n, text)
  | k + 1, n, text =>
    match skipBlank m text with
    | [] => none
    | c :: rest => do hexNumber m k (n * 16 + (← hexValue? c)) rest

/-- What a single sign or an escaped one stands for. -/
inductive Item where
  | character (code : Nat)
  | set
  | place
  deriving DecidableEq, Repr

/-- What stands behind a backslash, and the rest. -/
def escaped (m : Modes) : List Char → Option (Item × List Char)
  | [] => none
  | c :: rest =>
    if c = 'x' ∨ c = 'u' ∨ c = 'U' then do
      let (n, rest) ← hexNumber m (if c = 'x' then 2 else if c = 'u' then 4 else 8) 0 rest
      if !n.isValidChar || (c = 'x' && !m.unicode && 127 < n) then none
      else some (.character n, rest)
    else if c = 'p' ∨ c = 'P' then
      match skipBlank m rest with
      | [] => none
      | k :: rest =>
        if m.unicode && "clmnpszCLMNPSZ".toList.contains k then some (.set, rest) else none
    else if c = 'd' ∨ c = 's' ∨ c = 'w' then some (.set, rest)
    else if c = 'D' ∨ c = 'S' ∨ c = 'W' then if m.unicode then some (.set, rest) else none
    else if c = 'A' ∨ c = 'z' then some (.place, rest)
    else if c = 'b' ∨ c = 'B' ∨ c = '<' ∨ c = '>' then
      if m.unicode then none else some (.place, rest)
    else if "aftnrv".toList.contains c then some (.character c.toNat, rest)
    else if c.isAlphanum || 128 ≤ c.toNat then none
    else some (.character c.toNat, rest)

/-- A sign inside of brackets, and the rest. -/
private def member (m : Modes) : List Char → Option (Item × List Char)
  | [] => none
  | '\\' :: rest => escaped m rest
  | c :: rest => if m.unicode || c.toNat < 128 then some (.character c.toNat, rest) else none

/-- A sign inside of brackets, or a range of them, and the rest. -/
private def range (m : Modes) (text : List Char) : Option (List Char) := do
  let (low, rest) ← member m text
  match skipBlank m rest with
  | [] => none
  | '-' :: more =>
    match skipBlank m more, low with
    | [], _ => none
    | ']' :: _, .place | '-' :: _, .place => none
    | ']' :: _, _ | '-' :: _, _ => some ('-' :: more)
    | more, .character a =>
      match ← member m more with
      | (.character b, rest) => if a ≤ b then some rest else none
      | _ => none
    | _, _ => none
  | rest => if low = .place then none else some rest

private def classNames : List String :=
  ["alnum", "alpha", "ascii", "blank", "cntrl", "digit", "graph", "lower", "print", "punct",
    "space", "upper", "word", "xdigit"]

/-- A class of characters by its name between colons, the bracket before it being read: whether it
is the complement, and the rest. -/
private def namedClass? : List Char → Option (Bool × List Char)
  | ':' :: text =>
    let (negated, text) := match text with
      | '^' :: text => (true, text)
      | text => (false, text)
    let name := text.takeWhile (· ≠ ':')
    match text.drop name.length with
    | ':' :: ']' :: rest =>
      if classNames.contains (String.ofList name) then some (negated, rest) else none
    | _ => none
  | _ => none

/-- The signs that stand for themselves at the beginning of a class, and the rest. -/
private def opening (m : Modes) (text : List Char) : Option (List Char) :=
  let text := skipBlank m text
  let inner : Option (List Char) := match text with
    | '^' :: rest => if m.unicode then some (skipBlank m rest) else none
    | text => some text
  inner.bind fun text =>
    let rest := dashes text
    match rest with
    | [] => none
    | ']' :: more => if rest.length = text.length then some (skipBlank m more) else some rest
    | rest => some rest
where
  dashes : List Char → List Char
    | [] => []
    | c :: rest =>
      if c = '-' || (m.spaced && Text.isBlank c) then dashes rest else c :: rest

/-- The inside of brackets up to the one that closes them, `depth` further ones being open, and the
rest. The fuel is the length of the text. -/
private def brackets (m : Modes) : Nat → Nat → List Char → Option (List Char)
  | 0, _, _ => none
  | fuel + 1, depth, text =>
    match skipBlank m text with
    | [] => none
    | '[' :: rest =>
      match namedClass? rest with
      | some (negated, rest) =>
        if negated && !m.unicode then none else brackets m fuel depth rest
      | none => do brackets m fuel (depth + 1) (← opening m rest)
    | ']' :: rest =>
      match depth with
      | 0 => some rest
      | depth + 1 => brackets m fuel depth rest
    | '&' :: '&' :: rest | '-' :: '-' :: rest | '~' :: '~' :: rest => brackets m fuel depth rest
    | text => do brackets m fuel depth (← range m text)

/-- The name of a group up to its end, and the rest. -/
private def groupName? (names : List (List Char)) (text : List Char) :
    Option (List Char × List Char) :=
  let name := text.takeWhile (· ≠ '>')
  let starts (c : Char) := c = '_' || c.isAlpha || (128 ≤ c.toNat && Text.isAlphanumeric c)
  let follows (c : Char) := c = '_' || c = '.' || c = '[' || c = ']' || Text.isAlphanumeric c
  match text.drop name.length, name with
  | '>' :: rest, c :: cs =>
    if starts c && cs.all follows && !names.contains name then some (name, rest) else none
  | _, _ => none

/-- Letters that switch modes, up to the sign that ends them: the modes, that sign and the rest. -/
private def switches (seen : List Char) (m : Modes) : List Char →
    Option (Modes × List Char × Char × List Char)
  | [] => none
  | c :: rest =>
    if c = ':' ∨ c = ')' then
      if seen.head? = some '-' then none else some (m, seen, c, rest)
    else if seen.contains c then none
    else
      let on := !seen.contains '-'
      match c with
      | 'u' => switches (c :: seen) { m with unicode := on } rest
      | 'x' => switches (c :: seen) { m with spaced := on } rest
      | 'i' | 'm' | 's' | 'U' | 'R' | '-' => switches (c :: seen) m rest
      | _ => none

/-- What stands behind an opening parenthesis. -/
private def group (p : Progress) (text : List Char) : Option (Progress × List Char) :=
  let opened := { p with groups := p.modes :: p.groups, repeatable := false }
  let named (text : List Char) : Option (Progress × List Char) := do
    let (name, rest) ← groupName? p.names text
    return ({ opened with names := name :: p.names }, rest)
  match skipBlank p.modes text with
  | '?' :: 'P' :: '<' :: rest => named rest
  | '?' :: '<' :: '!' :: _ => none
  | '?' :: '<' :: rest => named rest
  | '?' :: rest => do
    let (modes, seen, final, rest) ← switches [] p.modes rest
    if final = ':' then return ({ opened with modes }, rest)
    else if seen.isEmpty then none
    else return ({ p with modes, repeatable := false }, rest)
  | rest => some (opened, rest)

/-- One part of the pattern. -/
private def step (p : Progress) (text : List Char) : Option (Progress × List Char) :=
  let next : Progress := { p with repeatable := true }
  match text with
  | [] => some (p, [])
  | '(' :: rest => group p rest
  | ')' :: rest =>
    match p.groups with
    | [] => none
    | modes :: groups => some ({ next with modes, groups }, rest)
  | '|' :: rest => some ({ p with repeatable := false }, rest)
  | '[' :: rest => do
    let rest ← brackets p.modes rest.length 0 (← opening p.modes rest)
    return (next, rest)
  | '*' :: rest | '+' :: rest | '?' :: rest =>
    if !p.repeatable then none
    else
      match rest with
      | '?' :: rest => some (p, rest)
      | rest => some (p, rest)
  | '\x7b' :: _ => none
  | '.' :: rest => if p.modes.unicode then some (next, rest) else none
  | '\\' :: rest => (escaped p.modes rest).map fun (_, rest) => (next, rest)
  | _ :: rest => some (next, rest)

/-- Every part takes at least one character, so the fuel is the length of the text. -/
private def run : Nat → Progress → List Char → Bool
  | 0, p, _ => p.groups.isEmpty
  | fuel + 1, p, text =>
    match skipBlank p.modes text with
    | [] => p.groups.isEmpty
    | text =>
      match step p text with
      | none => false
      | some (p, rest) => run fuel p rest

end Pattern

/-- The text is a pattern. -/
def isPattern (text : List Char) : Bool := Pattern.run (text.length + 1) {} text

/-- A number behind a plus sign, which alone would repeat nothing. -/
def isSigned (text : List Char) : Bool :=
  match text with
  | '+' :: number =>
    let whole := number.takeWhile Char.isDigit
    let tail := number.drop whole.length
    let places := match tail with
      | '.' :: more => more.takeWhile Char.isDigit
      | _ => []
    let tail := match tail with
      | '.' :: more => more.drop places.length
      | tail => tail
    let exponent := match tail with
      | [] => true
      | e :: '+' :: digits | e :: '-' :: digits | e :: digits =>
        e.toLower = 'e' && !digits.isEmpty && digits.all Char.isDigit
    let name := String.ofList (number.map Char.toLower)
    name = "inf" || name = "infinity" || name = "nan"
      || (!(whole.isEmpty && places.isEmpty) && exponent)
  | _ => false

end TrustAnchor.Log
