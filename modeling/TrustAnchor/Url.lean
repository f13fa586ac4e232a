/-! The form of addresses: which characters may stand in a path and in a query, and what the part
that names a host may look like. -/

namespace TrustAnchor.Url

/-- What is wrong with an address. -/
inductive Fault where
  | empty
  | badCharacter
  | badAuthority
  /-- A path without a host before it. -/
  | badFormat
  | tooLong
  deriving DecidableEq, Repr

def Fault.message : Fault → String
  | .empty => "empty string"
  | .badCharacter => "invalid uri character"
  | .badAuthority => "invalid authority"
  | .badFormat => "invalid format"
  | .tooLong => "uri too long"

/-- The greatest number of bytes of an address. -/
def maxLength : Nat := 65534

/-- A character that may stand in a path as it is. -/
def isPathChar (c : Char) : Bool :=
  let n := c.toNat
  n = 0x21 || n = 0x22 || (0x24 ≤ n && n ≤ 0x3B) || n = 0x3D || (0x40 ≤ n && n ≤ 0x5F)
    || (0x61 ≤ n && n ≠ 0x7F)

/-- A character that may stand in a query as it is. -/
def isQueryChar (c : Char) : Bool :=
  let n := c.toNat
  n = 0x21 || (0x24 ≤ n && n ≤ 0x3B) || n = 0x3D || (0x3F ≤ n && n ≠ 0x7F)

/-- A path and, behind a question mark, a query. A number sign ends both, and what follows it is of
no interest. -/
def splitPath (text : List Char) : Except Fault (List Char × Option (List Char)) :=
  let isMark (c : Char) := c = '?' || c = '#'
  let path := text.takeWhile (!isMark ·)
  let query := match text.drop path.length with
    | '?' :: rest => some (rest.takeWhile (· ≠ '#'))
    | _ => none
  if path.all isPathChar && (query.getD []).all isQueryChar then .ok (path, query)
  else .error .badCharacter

/-- A character that may stand in an address at all. -/
def isUrlChar (c : Char) : Bool :=
  c.isAlphanum || "!#$&'()*+,-./:;=?@[]_~".toList.contains c

/-- What was seen of the part that names a host. -/
structure Authority where
  /-- Colons that may stand before a port. -/
  colons : Nat := 0
  opened : Bool := false
  closed : Bool := false
  /-- A percent sign that may belong to the name of the host. -/
  percent : Bool := false
  /-- The last character separates the user from the host. -/
  atUser : Bool := false
  deriving DecidableEq, Repr

namespace Authority

/-- One character. Neither colons nor percent signs count in the name of a user, or in brackets. -/
def next (a : Authority) (c : Char) : Except Fault Authority :=
  let a := { a with atUser := false }
  match c with
  | ':' => if 8 ≤ a.colons then .error .badAuthority else .ok { a with colons := a.colons + 1 }
  | '[' => if a.percent || a.opened then .error .badAuthority else .ok { a with opened := true }
  | ']' =>
    if !a.opened || a.closed then .error .badAuthority
    else .ok { a with closed := true, colons := 0, percent := false }
  | '@' => .ok { a with atUser := true, colons := 0, percent := false }
  | '%' => .ok { a with percent := true }
  | c => if isUrlChar c then .ok a else .error .badCharacter

/-- Brackets come in pairs, a host follows the user, and at most a port follows the host. -/
def complete (a : Authority) : Bool :=
  a.opened = a.closed && a.colons ≤ 1 && !a.atUser && !a.percent

end Authority

/-- What is wrong with an address, the scheme before it being read: a host, perhaps with a user and a
port, and what follows it. -/
def hostFault? (text : List Char) : Option Fault :=
  let host := text.takeWhile fun c => c ≠ '/' && c ≠ '?' && c ≠ '#'
  match host.foldlM Authority.next {} with
  | .error f => some f
  | .ok a =>
    if text.isEmpty then some .empty
    else if !a.complete then some .badAuthority
    else if host.isEmpty then some .badFormat
    else
      match splitPath (text.drop host.length) with
      | .error f => some f
      | .ok _ => none

/-! Numbers that name a host: eight groups of sixteen bits, of which a run of zeros may be left out,
and the last two may be written as four bytes. -/

private def byte? (text : List Char) : Option (List Char) :=
  let digits := text.takeWhile Char.isDigit
  let value := digits.foldl (fun n c => n * 10 + (c.toNat - 48)) 0
  if digits.isEmpty || 3 < digits.length || 255 < value
      || (digits.head? = some '0' && digits ≠ ['0']) then none
  else some (text.drop digits.length)

/-- Four bytes in decimal, and the rest. -/
private def fourBytes? (text : List Char) : Option (List Char) := do
  let point : List Char → Option (List Char)
    | '.' :: rest => some rest
    | _ => none
  byte? (← point (← byte? (← point (← byte? (← point (← byte? text))))))

private def isHexDigit (c : Char) : Bool :=
  c.isDigit || ('a' ≤ c && c ≤ 'f') || ('A' ≤ c && c ≤ 'F')

/-- As many groups as there are, up to a number of them: how many there were, whether the last two
were written as four bytes, and the rest. -/
private def groups : Bool → Nat → List Char → Nat × Bool × List Char
  | _, 0, text => (0, false, text)
  | isFirst, room + 1, text =>
    let start : Option (List Char) :=
      if isFirst then some text
      else match text with
        | ':' :: rest => some rest
        | _ => none
    match start with
    | none => (0, false, text)
    | some start =>
      match if room = 0 then none else fourBytes? start with
      | some rest => (2, true, rest)
      | none =>
        let digits := start.takeWhile isHexDigit
        if digits.isEmpty || 4 < digits.length then (0, false, text)
        else
          let (n, bytes, rest) := groups false room (start.drop digits.length)
          (n + 1, bytes, rest)

/-- The text is a number of 128 bits that names a host. -/
def isHostNumber (text : List Char) : Bool :=
  match groups true 8 text with
  | (8, _, rest) => rest.isEmpty
  | (n, false, ':' :: ':' :: rest) => (groups true (7 - n) rest).2.2.isEmpty
  | _ => false

end TrustAnchor.Url
