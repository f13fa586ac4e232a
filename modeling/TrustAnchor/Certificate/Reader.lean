import TrustAnchor.Certificate.Time
import TrustAnchor.Der

/-! Certificates read from their encoding: version, parties, validity, key and extensions, each
where it has to stand. Signatures are not checked. Bytes after a part that has been read are ignored, at
the end of the certificate as well as inside it. -/

namespace TrustAnchor

namespace Certificate

/-- What keeps bytes from being a certificate. -/
inductive Fault where
  | incomplete (missing : Nat)
  | endOfInput
  | indefiniteLength
  | invalidLength
  | invalidTag
  | unexpectedTag (expected actual : Nat)
  | unexpectedClass (expected actual : Der.TagClass)
  | invalidVersion
  | invalidSerial
  | invalidAlgorithm
  | invalidDate
  | invalidKey
  | invalidIssuerId
  | invalidSubjectId
  | invalidExtensions
  | invalidSignature
  deriving DecidableEq, Repr

private def classText : Der.TagClass → String
  | .universal => "Universal"
  | .application => "Application"
  | .contextSpecific => "ContextSpecific"
  | .privateUse => "Private"

def Fault.message : Fault → String
  | .incomplete missing => "Parsing requires " ++ missing.repr ++ " bytes/chars"
  | .endOfInput => "Parsing Error: NomError(Eof)"
  | .indefiniteLength => "Parsing Error: Der(DerConstraintFailed(IndefiniteLength))"
  | .invalidLength => "Parsing Error: Der(InvalidLength)"
  | .invalidTag => "Parsing Error: Der(InvalidTag)"
  | .unexpectedTag expected actual =>
    "Parsing Error: Der(UnexpectedTag \x7b expected: Some(Tag(" ++ expected.repr
      ++ ")), actual: Tag(" ++ actual.repr ++ ") \x7d)"
  | .unexpectedClass expected actual =>
    "Parsing Error: Der(UnexpectedClass \x7b expected: Some(" ++ classText expected
      ++ "), actual: " ++ classText actual ++ " \x7d)"
  | .invalidVersion => "Parsing Error: InvalidVersion"
  | .invalidSerial => "Parsing Error: InvalidSerial"
  | .invalidAlgorithm => "Parsing Error: InvalidAlgorithmIdentifier"
  | .invalidDate => "Parsing Error: InvalidDate"
  | .invalidKey => "Parsing Error: InvalidSPKI"
  | .invalidIssuerId => "Parsing Error: InvalidIssuerUID"
  | .invalidSubjectId => "Parsing Error: InvalidSubjectUID"
  | .invalidExtensions => "Parsing Error: InvalidExtensions"
  | .invalidSignature => "Parsing Error: InvalidSignatureValue"

def Fault.ofDer : Der.Fault → Fault
  | .headerCut missing => .incomplete missing
  | .contentCut missing => .incomplete missing
  | .indefiniteLength => .indefiniteLength
  | .invalidLength => .invalidLength
  | .invalidTag => .invalidTag

/-- One attribute of a name: which, and its value. -/
structure Attribute where
  oid : List UInt8
  value : List UInt8
  deriving DecidableEq, Repr

/-- The name of a party: its encoding and its attributes. -/
structure Name where
  encoded : List UInt8
  attributes : List Attribute
  deriving DecidableEq, Repr

structure Extension where
  oid : List UInt8
  critical : Bool
  value : List UInt8
  deriving DecidableEq, Repr

end Certificate

structure Certificate where
  version : Nat
  serial : List UInt8
  issuer : Certificate.Name
  notBefore : Instant
  notAfter : Instant
  subject : Certificate.Name
  extensions : List Certificate.Extension
  signatureAlgorithm : List UInt8
  deriving DecidableEq, Repr

namespace Certificate

/-- A reader takes bytes from the front. -/
private abbrev Reader := StateT (List UInt8) (Except Fault)

private def fail (e : Fault) : Reader α := StateT.lift (.error e)

namespace Part

private def element : Reader Der.Element := fun bytes => (Der.read bytes).mapError .ofDer

/-- An element that the fields of a certificate lie in. Content that is cut off counts as the end of
the input, however much of it is missing. -/
private def container : Reader Der.Element := fun bytes =>
  (Der.read bytes).mapError fun
    | .contentCut _ => .endOfInput
    | fault => .ofDer fault

private def contentOf (tag : Nat) (e : Der.Element) : Reader (List UInt8) :=
  if e.tag = tag then return e.content else fail (.unexpectedTag tag e.tag)

/-- The content of a sequence. Its tag is looked at after its content has been found complete. -/
private def sequence : Reader (List UInt8) := do contentOf 16 (← container)

/-- Reads content that has been taken out of its element. -/
private def inside (content : List UInt8) (r : Reader α) : Reader α :=
  StateT.lift ((r content).map (·.1))

/-- Any fault becomes one fault. -/
private def orElse (e : Fault) (r : Reader α) : Reader α := fun bytes =>
  (r bytes).mapError fun _ => e

/-- Any fault but missing bytes becomes one fault. -/
private def orElseComplete (e : Fault) (r : Reader α) : Reader α := fun bytes =>
  (r bytes).mapError fun
    | .incomplete missing => .incomplete missing
    | _ => e

/-- An element that is not made of others. -/
private def primitive : Reader Der.Element := do
  let e ← element
  if e.constructed then fail .invalidTag else return e

/-- Whether the content is a string of bits: a count of unused bits, and bytes of which the last has
at least so many zeros at its end. -/
private def isBits : List UInt8 → Bool
  | [] => false
  | [unused] => unused = 0
  | unused :: b :: rest =>
    let last := (b :: rest).getLastD 0
    last.toNat % Nat.pow 2 unused.toNat = 0 && (unused ≤ 8)

/-- A string of bits, whatever the class. -/
private def bits (e : Fault) : Reader Unit := orElse e do
  let x ← primitive
  if x.tag ≠ 3 ∨ !isBits x.content then fail e

/-- A number that is not negative, of at most four bytes, in its shortest form. -/
private def shortNumber (e : Fault) : Reader Nat := orElse e do
  let x ← primitive
  let digits := match x.content with
    | 0 :: b :: rest => if b < 0x80 then [] else b :: rest
    | b :: rest => if b < 0x80 then b :: rest else []
    | [] => []
  if x.tag = 2 ∧ digits ≠ [] ∧ digits.length ≤ 4 then return Der.natOfBytes digits else fail e

/-- The version, counted from zero; a missing one is zero. Whether it is there shows in the number
of the first element, which then has to be of the right class. -/
private def version : Reader Nat := do
  let bytes ← get
  if bytes.isEmpty then return 0
  let e ← element
  if e.tag ≠ 0 then
    set bytes
    return 0
  else if e.tagClass ≠ .contextSpecific then fail (.unexpectedClass .contextSpecific e.tagClass)
  else inside e.content (shortNumber .invalidVersion)

/-- The serial number, of any size and sign, in any class. Its length may be left open. -/
private def serial : Reader (List UInt8) := fun bytes =>
  match Der.readOpen bytes with
  | some (e, rest) => if e.tag = 2 then .ok (e.content, rest) else .error .invalidSerial
  | none => .error .invalidSerial

/-- The identifier that an algorithm is known by, which may have any number, and one parameter. -/
private def algorithm : Reader (List UInt8) := do
  let content ← contentOf 16 (← element)
  inside content do
    let identifier ← orElseComplete .invalidAlgorithm primitive
    if !(← get).isEmpty then discard element
    return identifier.content

private def nameEntry : Reader Attribute := do
  let content ← sequence
  inside content do
    let kind ← primitive
    let value ← element
    return ⟨kind.content, value.content⟩

/-- What can be read one after another, up to the first that cannot, and the bytes from there on. -/
private def many (r : Reader α) (bytes : List UInt8) : List α × List UInt8 := go bytes.length bytes
where
  go : Nat → List UInt8 → List α × List UInt8
    | 0, bytes => ([], bytes)
    | fuel + 1, bytes =>
      match r bytes with
      | .error _ => ([], bytes)
      | .ok (found, rest) =>
        let (others, rest) := go fuel rest
        (found :: others, rest)

/-- A set of at least one attribute. -/
private def attributes : Reader (List Attribute) := do
  let content ← contentOf 17 (← container)
  match (many nameEntry content).1 with
  | [] => fail .endOfInput
  | found => return found

private def name : Reader Name := do
  let bytes ← get
  let content ← sequence
  let rest ← get
  return ⟨bytes.take (bytes.length - rest.length), (many attributes content).1.flatten⟩

/-- A point in time in either form, whatever the class. -/
private def time : Reader Instant := orElse .invalidDate do
  let e ← element
  let digits := e.content.map fun b => Char.ofNat b.toNat
  let found :=
    if e.tag = 23 then Time.readShort? digits
    else if e.tag = 24 then Time.readLong? digits
    else none
  match found with
  | some t => return t
  | none => fail .invalidDate

private def validity : Reader (Instant × Instant) := do
  let content ← sequence
  inside content do
    let notBefore ← time
    let notAfter ← time
    return (notBefore, notAfter)

/-- The algorithm and the bits of a public key. -/
private def publicKey : Reader Unit := do
  let content ← sequence
  inside content do
    discard algorithm
    bits .invalidKey

/-- The number that tells a party from others of its name, if the next element has the number that
it has to have. -/
private def uniqueId (tag : Nat) (e : Fault) : Reader Unit := do
  let bytes ← get
  if !bytes.isEmpty then
    let (header, _) ← StateT.lift ((Der.readHeader bytes).mapError fun _ => e)
    if header.tag = tag then
      let x ← orElse e primitive
      if x.tagClass ≠ .contextSpecific ∨ !isBits x.content then fail e

/-- Whether an extension must be understood. A mark that is not one byte is not taken. -/
private def critical : Reader Bool := fun bytes =>
  match Der.readOpen bytes with
  | some (e, rest) =>
    if e.tag = 1 then
      match e.content with
      | [b] => .ok (b ≠ 0, rest)
      | _ => .ok (false, bytes)
    else .ok (false, bytes)
  | none => .ok (false, bytes)

private def extension : Reader Extension := do
  let content ← sequence
  inside content do
    let kind ← primitive
    let critical ← critical
    let value ← primitive
    return ⟨kind.content, critical, ← contentOf 4 value⟩

/-- The extensions take all that is left. The length of the outer element says nothing, as the
sequence in it has a length of its own. -/
private def extensions : Reader (List Extension) := do
  let bytes ← get
  if bytes.isEmpty then return []
  let (header, rest) ← StateT.lift ((Der.readHeader bytes).mapError fun _ => .invalidExtensions)
  if header.tag ≠ 3 then fail .invalidExtensions
  set rest
  let content ← sequence
  let (found, left) := many extension content
  if left.isEmpty ∧ (← get).isEmpty then return found else fail .endOfInput

/-- The part of a certificate that is signed. -/
private def signedPart : Reader Certificate := do
  let content ← sequence
  inside content do
    let version ← version
    let serial ← serial
    discard algorithm
    let issuer ← name
    let (notBefore, notAfter) ← validity
    let subject ← name
    publicKey
    uniqueId 1 .invalidIssuerId
    uniqueId 2 .invalidSubjectId
    let extensions ← extensions
    return {
      version, serial, issuer, notBefore, notAfter, subject, extensions, signatureAlgorithm := [] }

private def certificate : Reader Certificate := do
  let content ← sequence
  inside content do
    let signed ← signedPart
    let signatureAlgorithm ← algorithm
    bits .invalidSignature
    return { signed with signatureAlgorithm }

end Part

/-- The certificate at the start of the bytes and what follows it. -/
def read (bytes : List UInt8) : Except Fault (Certificate × List UInt8) := Part.certificate bytes

end Certificate

end TrustAnchor
