/-! Tagged values in the distinguished encoding: a tag, the length of the content, the content.
Reading an element takes the bytes of its content as they are; what is inside is read again, by
those who know what to expect there. -/

namespace TrustAnchor.Der

inductive TagClass where
  | universal | application | contextSpecific | privateUse
  deriving DecidableEq, Repr

/-- What stands before the content of an element. -/
structure Header where
  tagClass : TagClass
  constructed : Bool
  tag : Nat
  length : Nat
  deriving DecidableEq, Repr

structure Element extends Header where
  content : List UInt8
  deriving DecidableEq, Repr

/-- What keeps bytes from being an element. -/
inductive Fault where
  /-- The header is cut off; so many bytes are missing at least. -/
  | headerCut (missing : Nat)
  /-- The content is cut off; so many bytes are missing. -/
  | contentCut (missing : Nat)
  | indefiniteLength
  | invalidLength
  | invalidTag
  deriving DecidableEq, Repr

private def tagClassOf (b : UInt8) : TagClass :=
  match b.toNat / 64 with
  | 0 => .universal
  | 1 => .application
  | 2 => .contextSpecific
  | _ => .privateUse

/-- A number in base 128: all bytes but the last have the high bit set. At most five bytes, of
which the number keeps the lowest 32 bits. -/
private def readLongTag : (room : Nat) → Nat → List UInt8 → Except Fault (Nat × List UInt8)
  | _, _, [] => .error .invalidTag
  | 0, _, _ :: _ => .error .invalidTag
  | room + 1, n, b :: rest =>
    let n := (n * 128 + b.toNat % 128) % Nat.pow 2 32
    if b < 0x80 then .ok (n, rest) else readLongTag room n rest

/-- The number that bytes spell, the most significant byte first. -/
def natOfBytes (bytes : List UInt8) : Nat := bytes.foldl (fun n b => n * 256 + b.toNat) 0

/-- The length of the content; none where it is left open. -/
private def readLength (bytes : List UInt8) : Except Fault (Option Nat × List UInt8) :=
  match bytes with
  | [] => .error (.headerCut 1)
  | b :: rest =>
    let n := b.toNat % 128
    if b < 0x80 then .ok (some n, rest)
    else if n = 0 then .ok (none, rest)
    else if n = 127 then .error .invalidLength
    else if rest.length < n then .error (.headerCut (n - rest.length))
    else
      let length := natOfBytes (rest.take n)
      if Nat.pow 2 64 ≤ length then .error .invalidLength else .ok (some length, rest.drop n)

/-- The header at the start of the bytes, with no length where it is left open, and what follows. -/
private def readOpenHeader (bytes : List UInt8) :
    Except Fault (Header × Option Nat × List UInt8) :=
  match bytes with
  | [] => .error (.headerCut 1)
  | b :: rest => do
    let (tag, rest) ←
      if b.toNat % 32 = 31 then readLongTag 5 0 rest else .ok (b.toNat % 32, rest)
    let (length, rest) ← readLength rest
    let constructed := b.toNat / 32 % 2 = 1
    let header := { tagClass := tagClassOf b, constructed, tag, length := length.getD 0 }
    return (header, length, rest)

/-- The header at the start of the bytes and what follows it. -/
def readHeader (bytes : List UInt8) : Except Fault (Header × List UInt8) := do
  match ← readOpenHeader bytes with
  | (_, none, _) => throw .indefiniteLength
  | (header, some _, rest) => return (header, rest)

/-- The element at the start of the bytes and what follows it. -/
def read (bytes : List UInt8) : Except Fault (Element × List UInt8) := do
  let (header, rest) ← readHeader bytes
  if rest.length < header.length then throw (.contentCut (header.length - rest.length))
  return ({ header with content := rest.take header.length }, rest.drop header.length)

/-- What follows the end mark of the outermost of some elements whose lengths are left open. The end
mark is an empty element with the number zero. At most 49 such elements may lie in one another. -/
private def skipOpen : (fuel : Nat) → (depth : Nat) → List UInt8 → Option (List UInt8)
  | 0, _, _ => none
  | fuel + 1, depth, bytes =>
    match readOpenHeader bytes with
    | .error _ => none
    | .ok (header, length, rest) =>
      if 50 ≤ depth then none
      else
        match length with
        | none => if header.constructed then skipOpen fuel (depth + 1) rest else none
        | some 0 =>
          if header.tag ≠ 0 then skipOpen fuel depth rest
          else if depth = 1 then some rest
          else skipOpen fuel (depth - 1) rest
        | some n => if rest.length < n then none else skipOpen fuel depth (rest.drop n)

/-- The element at the start of the bytes and what follows it, where the length may be left open:
then the content ends two bytes before what follows the end mark. -/
def readOpen (bytes : List UInt8) : Option (Element × List UInt8) :=
  match readOpenHeader bytes with
  | .ok (header, none, rest) =>
    if header.constructed then
      (skipOpen (rest.length + 1) 1 rest).map fun after =>
        let length := rest.length - after.length - 2
        ({ header with length, content := rest.take length }, after)
    else none
  | _ => (read bytes).toOption

/-- The elements that the bytes consist of, with nothing left over. -/
def readAll (bytes : List UInt8) : Except Fault (List Element) :=
  go bytes.length bytes
where
  go : Nat → List UInt8 → Except Fault (List Element)
    | _, [] => .ok []
    | 0, _ :: _ => .ok []
    | fuel + 1, bytes => do
      let (e, rest) ← read bytes
      return e :: (← go fuel rest)

/-- The bytes of a number, the most significant first, without leading zeros. -/
def bytesOfNat (n : Nat) : List UInt8 := go 32 n []
where
  go : Nat → Nat → List UInt8 → List UInt8
    | 0, _, acc => acc
    | fuel + 1, n, acc => if n = 0 then acc else go fuel (n / 256) ((n % 256).toUInt8 :: acc)

private def writeLength (n : Nat) : List UInt8 :=
  if n < 128 then [n.toUInt8]
  else
    let bytes := bytesOfNat n
    (128 + bytes.length).toUInt8 :: bytes

/-- An element from its first byte and its content. -/
def write (identifier : UInt8) (content : List UInt8) : List UInt8 :=
  identifier :: writeLength content.length ++ content

def sequence (parts : List (List UInt8)) : List UInt8 := write 0x30 parts.flatten

def set (parts : List (List UInt8)) : List UInt8 := write 0x31 parts.flatten

/-- An integer from the bytes of a magnitude. -/
def integer (bytes : List UInt8) : List UInt8 :=
  match bytes.dropWhile (· = 0) with
  | [] => write 2 [0]
  | b :: rest => write 2 (if b < 0x80 then b :: rest else 0 :: b :: rest)

def octetString (content : List UInt8) : List UInt8 := write 4 content

/-- Whole bytes as a string of bits. -/
def bitString (content : List UInt8) : List UInt8 := write 3 (0 :: content)

def boolean (b : Bool) : List UInt8 := write 1 [if b then 0xFF else 0]

def utf8String (content : List UInt8) : List UInt8 := write 12 content

/-- An object identifier from its encoded content. -/
def oid (content : List UInt8) : List UInt8 := write 6 content

/-- A wrapper with a number of the enclosing structure. -/
def explicit (n : Nat) (content : List UInt8) : List UInt8 := write (0xA0 + n).toUInt8 content

end TrustAnchor.Der
