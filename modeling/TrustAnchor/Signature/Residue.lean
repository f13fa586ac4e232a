/-! Arithmetic modulo a number. -/

namespace TrustAnchor.Signature.Residue

def times (modulus a b : Nat) : Nat := a * b % modulus

def plus (modulus a b : Nat) : Nat := (a + b) % modulus

def minus (modulus a b : Nat) : Nat := (a + (modulus - b % modulus)) % modulus

/-- A power, for an exponent of at most so many bits. -/
def power (modulus base : Nat) : (bits : Nat) → Nat → Nat
  | 0, _ => 1
  | bits + 1, n =>
    let half := power modulus base bits (n / 2)
    let square := half * half % modulus
    if n % 2 = 1 then square * base % modulus else square

/-- The inverse modulo a prime of at most so many bits. -/
def inverse (modulus bits a : Nat) : Nat := power modulus a bits (modulus - 2)

end TrustAnchor.Signature.Residue
