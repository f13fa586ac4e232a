import TrustAnchor.Signature.Residue
import TrustAnchor.Signature.Sha2

/-! Public keys over the curve `-x² + y² = 1 + d x² y²` modulo `2²⁵⁵ - 19`. Points are kept in
coordinates `(x / z, y / z)` with `t = x y / z`, so that only the last step divides, and sums need
no case distinctions. -/

namespace TrustAnchor.Signature.Ed25519

/-- The number of elements of the field. -/
def field : Nat := Nat.pow 2 255 - 19

private def times (a b : Nat) : Nat := Residue.times field a b

private def plus (a b : Nat) : Nat := Residue.plus field a b

private def minus (a b : Nat) : Nat := Residue.minus field a b

/-- Twice the number `d` of the curve, which is `-121665 / 121666`. -/
private def doubledD : Nat :=
  times 2 (minus 0 (times 121665 (Residue.inverse field 255 121666)))

structure Point where
  x : Nat
  y : Nat
  z : Nat
  t : Nat

def Point.neutral : Point := ⟨0, 1, 1, 0⟩

/-- The point that generates the points of prime order: `y` is four fifths. -/
def Point.generator : Point :=
  let x := 0x216936D3CD6E53FEC0A4E231FDD6DC5C692CC7609525A7B2C9562D608F25D51A
  let y := 0x6666666666666666666666666666666666666666666666666666666666666658
  ⟨x, y, 1, times x y⟩

def Point.add (p q : Point) : Point :=
  let a := times (minus p.y p.x) (minus q.y q.x)
  let b := times (plus p.y p.x) (plus q.y q.x)
  let c := times (times p.t doubledD) q.t
  let d := times 2 (times p.z q.z)
  let e := minus b a
  let f := minus d c
  let g := plus d c
  let h := plus b a
  ⟨times e f, times g h, times f g, times e h⟩

/-- A multiple of a point, for a number of at most so many bits. -/
def Point.multiple (p : Point) : (bits : Nat) → Nat → Point
  | 0, _ => .neutral
  | bits + 1, n =>
    let half := p.multiple bits (n / 2)
    let twice := half.add half
    if n % 2 = 1 then twice.add p else twice

/-- A point in 32 bytes, the least significant first: `y`, and in the last bit whether `x` is
odd. -/
def Point.bytes (p : Point) : List UInt8 :=
  let i := Residue.inverse field 255 p.z
  (Sha2.bytesOf 32 (times p.y i + times p.x i % 2 * Nat.pow 2 255)).reverse

/-- The private number that a seed leads to: 254 bits long, and a multiple of eight. -/
def scalar (seed : List UInt8) : Nat :=
  let n := Der.natOfBytes ((sha512.hash seed).take 32).reverse
  Nat.pow 2 254 + n % Nat.pow 2 254 / 8 * 8

/-- The public key that belongs to a seed. -/
def publicKey (seed : List UInt8) : List UInt8 :=
  (Point.generator.multiple 255 (scalar seed)).bytes

end TrustAnchor.Signature.Ed25519
