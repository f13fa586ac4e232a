import TrustAnchor.Binary64

/-! The shortest decimal text of a double: as few digits as read back to it, and of those the
nearest. Small and large numbers are written with an exponent. -/

namespace TrustAnchor.Binary64

/-- The exponent of the first decimal digit of `n / d`, for positive numbers. -/
def leadingPlace (n d : Nat) : Int :=
  if d ≤ n then (n / d).repr.length - 1 else -(((d - 1) / n).repr.length : Int)

/-- The decimals on both sides of `n / d` with units of `10 ^ place`, the nearer one first. -/
def neighbours (n d : Nat) (place : Int) : List Nat :=
  let (n, d) := if 0 ≤ place then (n, d * Nat.pow 10 place.toNat)
    else (n * Nat.pow 10 (-place).toNat, d)
  let low := n / d
  if divNearest n d = low then [low, low + 1] else [low + 1, low]

/-- The fewest digits, up to seventeen, that read back to the double nearest to `n / d`, and the
place of the last of them. -/
def shortestDigits (n d : Nat) : Nat × Int :=
  let x := ofRatio false n d
  let top := leadingPlace n d
  let found := (List.range 17).findSome? fun (more : Nat) =>
    let place := top - (more : Int)
    ((neighbours n d place).find? fun digits => ofDecimal false digits place = x).map (·, place)
  found.getD (n / d, 0)

/-- Digits with a point where the number is neither small nor large, else with an exponent, which
has a sign and two digits at least. -/
private def layout (digits : List Char) (place : Int) : List Char :=
  let first := place + digits.length - 1
  if 0 ≤ place ∧ first < 16 then digits ++ List.replicate place.toNat '0' ++ ['.', '0']
  else if 0 ≤ first ∧ first < 16 then
    digits.take (first.toNat + 1) ++ '.' :: digits.drop (first.toNat + 1)
  else if -5 ≤ first ∧ first < 0 then
    '0' :: '.' :: List.replicate (-first - 1).toNat '0' ++ digits
  else
    let fraction := digits.drop 1
    digits.take 1 ++ (if fraction.isEmpty then [] else '.' :: fraction) ++ 'e'
      :: (if first < 0 then '-' else '+') :: Text.padded 2 first.natAbs

/-- The shortest text of a finite double. -/
def shortest (negative : Bool) (m : Nat) (e : Int) : String :=
  let sign := if negative then "-" else ""
  if m = 0 then sign ++ "0.0"
  else
    let (n, d) := if 0 ≤ e then (m * Nat.pow 2 e.toNat, 1) else (m, Nat.pow 2 (-e).toNat)
    let (digits, place) := shortestDigits n d
    let all := digits.repr.toList
    let kept := Text.trimZeros all
    sign ++ String.ofList (layout kept (place + (all.length - kept.length : Nat)))

end TrustAnchor.Binary64
