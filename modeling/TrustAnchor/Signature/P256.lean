import TrustAnchor.Signature.Curve

/-! Signatures over the curve P-256. The number that must be fresh for each signature is derived
from key and message, so a signature is a function of both. -/

namespace TrustAnchor.Signature.P256

/-- The number of points. -/
def order : Nat := Curve.p256.order

/-- A private key: a positive number below the order. -/
structure PrivateKey where
  scalar : Nat

namespace PrivateKey

/-- The private key that a number leads to. -/
def ofNat (n : Nat) : PrivateKey := ⟨n % (order - 1) + 1⟩

/-- The number in 32 bytes. -/
def bytes (k : PrivateKey) : List UInt8 := Sha2.bytesOf 32 k.scalar

/-- The public point, uncompressed. -/
def publicPoint (k : PrivateKey) : List UInt8 := Curve.p256.publicPoint k.scalar

/-- Both halves of a signature with a given fresh number; none if the number will not do. -/
private def signWith (k : PrivateKey) (digest fresh : Nat) : Option (Nat × Nat) :=
  if fresh = 0 ∨ order ≤ fresh then none
  else
    let r := (Curve.p256.multipleOfGenerator fresh).1 % order
    let s := Residue.inverse order 256 fresh * ((digest + r * k.scalar) % order) % order
    if r = 0 ∨ s = 0 then none else some (r, s)

/-- Tries fresh numbers from a chain of keyed hashes. -/
private def search (k : PrivateKey) (digest : Nat) :
    (tries : Nat) → (key v : List UInt8) → Nat × Nat
  | 0, _, _ => (1, 1)
  | tries + 1, key, v =>
    let v := sha256.keyed key v
    match k.signWith digest (Der.natOfBytes v) with
    | some signature => signature
    | none =>
      let key := sha256.keyed key (v ++ [0])
      search k digest tries key (sha256.keyed key v)

/-- The signature of a message: two numbers below the order. -/
def sign (k : PrivateKey) (message : List UInt8) : Nat × Nat :=
  let digest := Der.natOfBytes (sha256.hash message)
  let seed := k.bytes ++ Sha2.bytesOf 32 (digest % order)
  let v := List.replicate 32 1
  let key := sha256.keyed (List.replicate 32 0) (v ++ 0 :: seed)
  let v := sha256.keyed key v
  let key := sha256.keyed key (v ++ 1 :: seed)
  search k digest 64 key (sha256.keyed key v)

end PrivateKey

end TrustAnchor.Signature.P256
