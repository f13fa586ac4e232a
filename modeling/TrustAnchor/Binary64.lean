import TrustAnchor.Text.Digits

/-! Double-precision numbers as exact integers: a finite double is a sign, a mantissa and a power
of two, and each operation computes exactly and then rounds once, to the nearest double with ties
to the even mantissa (`ofRatio`). Nothing here depends on the machine's floating point unit, so a
delay computed from doubles can be reasoned about on integers. -/

namespace TrustAnchor

/-- A double: `± mantissa · 2 ^ exponent`, an infinity, or no number. Several mantissas and
exponents name one value; only the value is meant. -/
inductive Binary64 where
  | finite (negative : Bool) (mantissa : Nat) (exponent : Int)
  | infinity (negative : Bool)
  | nan
  deriving DecidableEq, Repr

namespace Binary64

/-- The integer nearest to `n / d`, the even one of two equally near. -/
def divNearest (n d : Nat) : Nat :=
  let quotient := n / d
  let twice := 2 * (n % d)
  if twice < d then quotient
  else if d < twice then quotient + 1
  else if quotient % 2 = 0 then quotient else quotient + 1

/-- The integer nearest to `n / d · 2 ^ (-p)`. -/
def scaledNearest (n d : Nat) (p : Int) : Nat :=
  if 0 ≤ p then divNearest n (d * Nat.pow 2 p.toNat) else divNearest (n * Nat.pow 2 (-p).toNat) d

/-- Whether `2 ^ e ≤ n / d`. -/
def reaches (n d : Nat) (e : Int) : Bool :=
  if 0 ≤ e then d * Nat.pow 2 e.toNat ≤ n else d ≤ n * Nat.pow 2 (-e).toNat

/-- The exponent of the unit in the last place of a double near `n / d`: 53 bits of mantissa, and
never below the unit of the subnormal numbers. -/
def unitExponent (n d : Nat) : Int :=
  let e : Int := (n.log2 : Int) - (d.log2 : Int)
  max (if reaches n d e then e - 52 else e - 53) (-1074)

/-- The double nearest to `± n / d`, for a positive `d`. -/
def ofRatio (negative : Bool) (n d : Nat) : Binary64 :=
  if n = 0 then .finite negative 0 0
  else
    let p := unitExponent n d
    let m := scaledNearest n d p
    if m ≠ 0 ∧ 1024 ≤ (m.log2 : Int) + p then .infinity negative else .finite negative m p

/-- The double nearest to `± m · 2 ^ e`. -/
def ofScaled (negative : Bool) (m : Nat) (e : Int) : Binary64 :=
  if 0 ≤ e then ofRatio negative (m * Nat.pow 2 e.toNat) 1
  else ofRatio negative m (Nat.pow 2 (-e).toNat)

/-- The double nearest to a natural number. -/
def ofNat (n : Nat) : Binary64 := ofRatio false n 1

/-- The double nearest to `± digits · 10 ^ e`. -/
def ofDecimal (negative : Bool) (digits : Nat) (e : Int) : Binary64 :=
  if 0 ≤ e then ofRatio negative (digits * Nat.pow 10 e.toNat) 1
  else ofRatio negative digits (Nat.pow 10 (-e).toNat)

def mul : Binary64 → Binary64 → Binary64
  | .nan, _ => .nan
  | _, .nan => .nan
  | .infinity s, .infinity t => .infinity (s != t)
  | .infinity s, .finite t m _ => if m = 0 then .nan else .infinity (s != t)
  | .finite s m _, .infinity t => if m = 0 then .nan else .infinity (s != t)
  | .finite s m e, .finite t n f => ofScaled (s != t) (m * n) (e + f)

/-- The value of a finite double in units of `2 ^ e`, for an `e` not above its exponent. -/
private def unitsAt (e : Int) (negative : Bool) (m : Nat) (f : Int) : Int :=
  let units : Int := m * Nat.pow 2 (f - e).toNat
  if negative then -units else units

def add : Binary64 → Binary64 → Binary64
  | .nan, _ => .nan
  | _, .nan => .nan
  | .infinity s, .infinity t => if s = t then .infinity s else .nan
  | .infinity s, .finite .. => .infinity s
  | .finite .., .infinity t => .infinity t
  | .finite s m e, .finite t n f =>
    let low := min e f
    let sum := unitsAt low s m e + unitsAt low t n f
    if sum = 0 then .finite (s && t) 0 0 else ofScaled (sum < 0) sum.natAbs low

/-- A finite double divided by a positive natural number. -/
def divNat : Binary64 → Nat → Binary64
  | .nan, _ => .nan
  | .infinity s, _ => .infinity s
  | .finite s m e, d =>
    if 0 ≤ e then ofRatio s (m * Nat.pow 2 e.toNat) d else ofRatio s m (d * Nat.pow 2 (-e).toNat)

/-- Strictly smaller, as numbers; false as soon as one side is no number. -/
def less : Binary64 → Binary64 → Bool
  | .nan, _ => false
  | _, .nan => false
  | .infinity s, .infinity t => s && !t
  | .infinity s, .finite .. => s
  | .finite .., .infinity t => !t
  | .finite s m e, .finite t n f =>
    let low := min e f
    unitsAt low s m e < unitsAt low t n f

/-- The smaller of two doubles; a side that is no number loses. -/
def smaller : Binary64 → Binary64 → Binary64
  | .nan, y => y
  | x, .nan => x
  | x, y => if less y x then y else x

/-- The exact decimal expansion of a finite double: a point, and at least one digit after it. -/
def decimal (negative : Bool) (m : Nat) (e : Int) : String :=
  let sign := if negative then "-" else ""
  if 0 ≤ e then sign ++ (m * Nat.pow 2 e.toNat).repr ++ ".0"
  else
    let places := (-e).toNat
    let digits := Text.padded (places + 1) (m * Nat.pow 5 places)
    let whole := digits.take (digits.length - places)
    let fraction := Text.trimZeros (digits.drop (digits.length - places))
    sign ++ String.ofList (whole ++ '.' :: if fraction.isEmpty then ['0'] else fraction)

end Binary64

end TrustAnchor
