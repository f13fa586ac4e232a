/-! Numbers in decimal, read from the left with a bound: the first character that is no digit, or
the first digit that leads past the bound, decides what is wrong. -/

namespace TrustAnchor.Text

/-- Why a text is no number within its bounds. -/
inductive NumberFault where
  | empty
  | badDigit
  | tooLarge
  | tooSmall
  deriving DecidableEq, Repr

def NumberFault.message : NumberFault → String
  | .empty => "cannot parse integer from empty string"
  | .badDigit => "invalid digit found in string"
  | .tooLarge => "number too large to fit in target type"
  | .tooSmall => "number too small to fit in target type"

/-- Digits that follow a number already read. -/
def digitsUpTo (bound : Nat) (beyond : NumberFault) : Nat → List Char → Except NumberFault Nat
  | n, [] => .ok n
  | n, c :: rest =>
    if c.isDigit then
      let n' := n * 10 + (c.toNat - 48)
      if bound < n' then .error beyond else digitsUpTo bound beyond n' rest
    else .error .badDigit

/-- Digits, at least one. -/
private def someDigits (bound : Nat) (beyond : NumberFault) : List Char → Except NumberFault Nat
  | [] => .error .badDigit
  | digits => digitsUpTo bound beyond 0 digits

/-- A number from zero to a bound. It may have a plus in front. -/
def natural (bound : Nat) : List Char → Except NumberFault Nat
  | [] => .error .empty
  | '+' :: digits => someDigits bound .tooLarge digits
  | digits => digitsUpTo bound .tooLarge 0 digits

/-- A number of 64 bits with a sign. -/
def integer64 : List Char → Except NumberFault Int
  | '-' :: digits => (fun n : Nat => -(n : Int)) <$> someDigits (Nat.pow 2 63) .tooSmall digits
  | text => Int.ofNat <$> natural (Nat.pow 2 63 - 1) text

end TrustAnchor.Text
