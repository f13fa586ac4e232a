import TrustAnchor.Pem
import TrustAnchor.Signature.Curve
import TrustAnchor.Signature.Ed25519

/-! Private keys that a certificate authority may have: unencrypted keys in the wrapping that names
the algorithm, of four kinds. Everything inside has to be in its shortest encoding with nothing
left over, and a public key beside a private one has to be the one that belongs to it. -/

namespace TrustAnchor.PrivateKey

open Signature (Curve)

/-- What keeps a text from being a private key. -/
inductive Fault where
  | pem (fault : Pem.Fault)
  | unsupported
  deriving DecidableEq, Repr

def Fault.message : Fault → String
  | .pem fault => "PEM error: " ++ fault.message
  | .unsupported => "Could not parse key pair"

/-- A kind of key, with the content of its algorithm identifier. -/
inductive Algorithm where
  | ed25519
  | p256
  | p384
  | rsa
  deriving DecidableEq, Repr

def Algorithm.identifier : Algorithm → List UInt8
  | .ed25519 => [6, 3, 0x2B, 0x65, 0x70]
  | .p256 =>
    [6, 7, 0x2A, 0x86, 0x48, 0xCE, 0x3D, 2, 1, 6, 8, 0x2A, 0x86, 0x48, 0xCE, 0x3D, 3, 1, 7]
  | .p384 => [6, 7, 0x2A, 0x86, 0x48, 0xCE, 0x3D, 2, 1, 6, 5, 0x2B, 0x81, 4, 0, 0x22]
  | .rsa => [6, 9, 0x2A, 0x86, 0x48, 0x86, 0xF7, 0x0D, 1, 1, 1, 5, 0]

def Algorithm.curve? : Algorithm → Option Curve
  | .p256 => some .p256
  | .p384 => some .p384
  | .ed25519 | .rsa => none

/-- The identifier of the curve alone. -/
def Algorithm.curveIdentifier (a : Algorithm) : List UInt8 := a.identifier.drop 9

/-- An element with its first byte as it stands in the input. -/
structure Item where
  identifier : UInt8
  content : List UInt8

/-- The elements that the bytes consist of, each in its shortest encoding. -/
def items (bytes : List UInt8) : Option (List Item) := go bytes.length bytes
where
  go : Nat → List UInt8 → Option (List Item)
    | _, [] => some []
    | 0, _ :: _ => none
    | fuel + 1, identifier :: rest =>
      match Der.read (identifier :: rest) with
      | .error _ => none
      | .ok (e, after) =>
        if identifier.toNat % 32 ≠ 31 ∧ e.content.length < 65536
            ∧ Der.write identifier e.content ++ after = identifier :: rest then
          (go fuel after).map (⟨identifier, e.content⟩ :: ·)
        else none

/-- The content of the only element. -/
def single (identifier : UInt8) (bytes : List UInt8) : Option (List UInt8) := do
  let [item] ← items bytes | none
  if item.identifier = identifier then return item.content else none

/-- What the wrapping holds. -/
structure Wrapped where
  version : Nat
  algorithm : List UInt8
  key : List UInt8
  publicKey : Option (List UInt8)

/-- A string of whole bytes among bits. -/
private def wholeBits : List UInt8 → Option (List UInt8)
  | 0 :: bytes => some bytes
  | _ => none

/-- Attributes are passed over. The second version adds the public key. -/
def unwrap (bytes : List UInt8) : Option Wrapped := do
  let parts ← items (← single 0x30 bytes)
  let ⟨2, [version]⟩ :: ⟨0x30, algorithm⟩ :: ⟨4, key⟩ :: rest := parts | none
  let rest := match rest with
    | ⟨0xA0, _⟩ :: rest => rest
    | rest => rest
  match version, rest with
  | 0, [] => return ⟨0, algorithm, key, none⟩
  | 1, [⟨0x81, bits⟩] => return ⟨1, algorithm, key, some (← wholeBits bits)⟩
  | 1, [⟨0xA1, content⟩] => return ⟨1, algorithm, key, some (← wholeBits (← single 3 content))⟩
  | _, _ => none

/-- A seed, and its public key if there is any. -/
def acceptsEd25519 (w : Wrapped) : Bool :=
  match single 4 w.key with
  | some seed => seed.length = 32 && w.publicKey.all (· = Signature.Ed25519.publicKey seed)
  | none => false

/-- A scalar of full width, positive and below the order of the curve, with its public point. -/
def acceptsCurve (a : Algorithm) (w : Wrapped) : Bool :=
  match a.curve?, (single 0x30 w.key).bind items with
  | some curve, some (⟨2, [1]⟩ :: ⟨4, scalar⟩ :: rest) =>
    let rest := match rest with
      | ⟨0xA0, parameters⟩ :: rest => if parameters = a.curveIdentifier then rest else []
      | rest => rest
    let d := Der.natOfBytes scalar
    match rest with
    | [⟨0xA1, content⟩] =>
      match (single 3 content).bind wholeBits with
      | some point =>
        w.version = 0 && scalar.length = curve.width && 0 < d && d < curve.order
          && point = curve.publicPoint d
      | none => false
    | _ => false
  | _, _ => false

/-- The number in a content that is not negative: a first byte of zero stands only before a byte
with its high bit set, or alone. -/
private def magnitude? : List UInt8 → Option Nat
  | [] => none
  | [0] => some 0
  | 0 :: b :: rest => if b < 0x80 then none else some (Der.natOfBytes (b :: rest))
  | b :: rest => if b < 0x80 then some (Der.natOfBytes (b :: rest)) else none

private def bitLength (n : Nat) : Nat := if n = 0 then 0 else n.log2 + 1

/-- The numbers of a key, in the order that they are written in. -/
structure RsaNumbers where
  modulus : Nat
  publicExponent : Nat
  privateExponent : Nat
  p : Nat
  q : Nat
  exponentModP : Nat
  exponentModQ : Nat
  inverseOfQ : Nat
  deriving DecidableEq, Repr

/-- The bits of each of the two primes: half of those of the modulus, rounded up. -/
def RsaNumbers.primeBits (k : RsaNumbers) : Nat := (bitLength k.modulus + 1) / 2

/-- The public half: a modulus of 256 to 512 bytes and an exponent of at most 33 bits. -/
def RsaNumbers.publicFits (k : RsaNumbers) : Bool :=
  let bits := bitLength k.modulus
  2048 ≤ (bits + 7) / 8 * 8 && bits ≤ 4096 && k.modulus % 2 = 1
    && 65537 ≤ k.publicExponent && k.publicExponent < Nat.pow 2 33 && k.publicExponent % 2 = 1

/-- Two odd numbers of one length, a multiple of 512 bits, whose product the modulus divides. -/
def RsaNumbers.primesFit (k : RsaNumbers) : Bool :=
  bitLength k.p = k.primeBits && bitLength k.q = k.primeBits && k.primeBits % 512 = 0
    && k.p % 2 = 1 && k.q % 2 = 1 && k.p * k.q % k.modulus = 0

/-- The private exponents are odd, and small enough; the one for the modulus is not too small. -/
def RsaNumbers.exponentsFit (k : RsaNumbers) : Bool :=
  k.privateExponent % 2 = 1 && k.primeBits < bitLength k.privateExponent
    && k.privateExponent < k.modulus
    && k.exponentModP % 2 = 1 && k.exponentModP < k.p
    && k.exponentModQ % 2 = 1 && k.exponentModQ < k.q
    && k.inverseOfQ < k.p && k.inverseOfQ * k.q % k.p = 1

/-- The numbers that an encoded key holds after its version. -/
def rsaNumbers? (key : List UInt8) : Option RsaNumbers := do
  let ⟨2, [0]⟩ :: numbers ← items (← single 0x30 key) | none
  let numbers ← numbers.mapM fun i => if i.identifier = 2 then magnitude? i.content else none
  match numbers with
  | [n, e, d, p, q, dp, dq, inverse] => return ⟨n, e, d, p, q, dp, dq, inverse⟩
  | _ => none

/-- Numbers that fit each other, in the first version of the wrapping. -/
def acceptsRsa (w : Wrapped) : Bool :=
  w.version = 0
    && (rsaNumbers? w.key).any fun k => k.publicFits && k.primesFit && k.exponentsFit

/-- The bytes are a key of one of the four kinds. -/
def accepts (bytes : List UInt8) : Bool :=
  match unwrap bytes with
  | none => false
  | some w =>
    if w.algorithm = Algorithm.ed25519.identifier then acceptsEd25519 w
    else if w.algorithm = Algorithm.p256.identifier then acceptsCurve .p256 w
    else if w.algorithm = Algorithm.p384.identifier then acceptsCurve .p384 w
    else w.algorithm = Algorithm.rsa.identifier && acceptsRsa w

/-- Whether the text holds an acceptable key. -/
def check (text : String) : Except Fault Unit := do
  let bytes ← (Pem.decode text).mapError .pem
  if accepts bytes then return () else throw .unsupported

end TrustAnchor.PrivateKey
