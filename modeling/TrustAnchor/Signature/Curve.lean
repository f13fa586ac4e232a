import TrustAnchor.Signature.Residue
import TrustAnchor.Signature.Sha2

/-! The curves `y² = x³ - 3x + b` over prime fields that keys and signatures are made on: P-256 and
P-384. Points are kept in coordinates `(x / z², y / z³)`, so that only the last step divides. -/

namespace TrustAnchor.Signature

/-- A curve, with the point that generates all others. Sums do not ask for the number `b`. -/
structure Curve where
  /-- The number of elements of the field. -/
  field : Nat
  /-- The number of points. -/
  order : Nat
  /-- The bytes of a coordinate. -/
  width : Nat
  generatorX : Nat
  generatorY : Nat

namespace Curve

def p256 : Curve where
  field := 0xFFFFFFFF00000001000000000000000000000000FFFFFFFFFFFFFFFFFFFFFFFF
  order := 0xFFFFFFFF00000000FFFFFFFFFFFFFFFFBCE6FAADA7179E84F3B9CAC2FC632551
  width := 32
  generatorX := 0x6B17D1F2E12C4247F8BCE6E563A440F277037D812DEB33A0F4A13945D898C296
  generatorY := 0x4FE342E2FE1A7F9B8EE7EB4A7C0F9E162BCE33576B315ECECBB6406837BF51F5

def p384 : Curve where
  field := Nat.pow 2 384 - Nat.pow 2 128 - Nat.pow 2 96 + Nat.pow 2 32 - 1
  order :=
    0xFFFFFFFFFFFFFFFFFFFFFFFFFFFFFFFFFFFFFFFFFFFFFFFFC7634D81F4372DDF * Nat.pow 2 128
      + 0x581A0DB248B0A77AECEC196ACCC52973
  width := 48
  generatorX :=
    0xAA87CA22BE8B05378EB1C71EF320AD746E1D3B628BA79B9859F741E082542A38 * Nat.pow 2 128
      + 0x5502F25DBF55296C3A545E3872760AB7
  generatorY :=
    0x3617DE4A96262C6F5D9E98BF9292DC29F8F41DBD289A147CE9DA3113B5F0B8C0 * Nat.pow 2 128
      + 0x0A60B1CE1D7E819D7A431D7C90EA0E5F

/-- A point; those with `z = 0` are the neutral element. -/
structure Point where
  x : Nat
  y : Nat
  z : Nat

def Point.neutral : Point := ⟨1, 1, 0⟩

variable (c : Curve)

def generator : Point := ⟨c.generatorX, c.generatorY, 1⟩

private def times (a b : Nat) : Nat := Residue.times c.field a b

private def plus (a b : Nat) : Nat := Residue.plus c.field a b

private def minus (a b : Nat) : Nat := Residue.minus c.field a b

def double (p : Point) : Point :=
  let delta := c.times p.z p.z
  let gamma := c.times p.y p.y
  let beta := c.times p.x gamma
  let alpha := c.times 3 (c.times (c.minus p.x delta) (c.plus p.x delta))
  let x := c.minus (c.times alpha alpha) (c.times 8 beta)
  let yz := c.plus p.y p.z
  let z := c.minus (c.minus (c.times yz yz) gamma) delta
  ⟨x, c.minus (c.times alpha (c.minus (c.times 4 beta) x)) (c.times 8 (c.times gamma gamma)), z⟩

def add (p q : Point) : Point :=
  if p.z = 0 then q
  else if q.z = 0 then p
  else
    let pp := c.times p.z p.z
    let qq := c.times q.z q.z
    let u := c.times p.x qq
    let s := c.times p.y (c.times qq q.z)
    let h := c.minus (c.times q.x pp) u
    let r := c.minus (c.times q.y (c.times pp p.z)) s
    if h = 0 then if r = 0 then c.double p else .neutral
    else
      let hh := c.times h h
      let hhh := c.times hh h
      let v := c.times u hh
      let x := c.minus (c.minus (c.times r r) hhh) (c.times 2 v)
      ⟨x, c.minus (c.times r (c.minus v x)) (c.times s hhh), c.times h (c.times p.z q.z)⟩

/-- A multiple of a point, for a number of at most so many bits. -/
def multiple (p : Point) : (bits : Nat) → Nat → Point
  | 0, _ => .neutral
  | bits + 1, n =>
    let half := c.double (multiple p bits (n / 2))
    if n % 2 = 1 then c.add half p else half

/-- The coordinates of a point other than the neutral element. -/
def coordinates (p : Point) : Nat × Nat :=
  let i := Residue.inverse c.field (8 * c.width) p.z
  let ii := c.times i i
  (c.times p.x ii, c.times p.y (c.times ii i))

/-- The coordinates of a multiple of the generating point. -/
def multipleOfGenerator (n : Nat) : Nat × Nat :=
  c.coordinates (c.multiple c.generator (8 * c.width) n)

/-- The public point that belongs to a private number, uncompressed. -/
def publicPoint (n : Nat) : List UInt8 :=
  let (x, y) := c.multipleOfGenerator n
  4 :: Sha2.bytesOf c.width x ++ Sha2.bytesOf c.width y

end Curve

end TrustAnchor.Signature
