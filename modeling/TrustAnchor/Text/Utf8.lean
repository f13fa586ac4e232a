/-! Text as bytes. Decoding stops at the first byte that cannot stand where it stands and says where
the broken sequence begins and how many of its bytes were still good. -/

namespace TrustAnchor.Text.Utf8

/-- Where and why bytes are no text. -/
inductive Fault where
  /-- The `length` bytes from `index` on start no character. -/
  | invalid (length index : Nat)
  /-- The input ends inside the character that starts at `index`. -/
  | incomplete (index : Nat)
  deriving DecidableEq, Repr

def Fault.message : Fault → String
  | .invalid length index =>
    "invalid utf-8 sequence of " ++ length.repr ++ " bytes from index " ++ index.repr
  | .incomplete index => "incomplete utf-8 byte sequence from index " ++ index.repr

/-- A byte of the form `10xxxxxx`. -/
def isContinuation (b : UInt8) : Bool := 0x80 ≤ b && b ≤ 0xBF

/-- The second byte of a three-byte character: no overlong form and no surrogate. -/
def isSecondOfThree (a b : UInt8) : Bool :=
  if a = 0xE0 then 0xA0 ≤ b && b ≤ 0xBF
  else if a = 0xED then 0x80 ≤ b && b ≤ 0x9F
  else isContinuation b

/-- The second byte of a four-byte character: no overlong form and nothing past `10FFFF`. -/
def isSecondOfFour (a b : UInt8) : Bool :=
  if a = 0xF0 then 0x90 ≤ b && b ≤ 0xBF
  else if a = 0xF4 then 0x80 ≤ b && b ≤ 0x8F
  else isContinuation b

/-- The six bits that a continuation byte carries. -/
def sixBits (b : UInt8) : Nat := b.toNat % 64

/-- The characters that the bytes spell, the first byte being number `i` of the input. -/
def decodeAt (i : Nat) : List UInt8 → Except Fault (List Char)
  | [] => .ok []
  | a :: rest =>
    if a < 0x80 then (decodeAt (i + 1) rest).map (Char.ofNat a.toNat :: ·)
    else if 0xC2 ≤ a && a ≤ 0xDF then
      match rest with
      | [] => .error (.incomplete i)
      | b :: rest =>
        if isContinuation b then
          (decodeAt (i + 2) rest).map (Char.ofNat (a.toNat % 32 * 64 + sixBits b) :: ·)
        else .error (.invalid 1 i)
    else if 0xE0 ≤ a && a ≤ 0xEF then
      match rest with
      | [] => .error (.incomplete i)
      | [b] => .error (if isSecondOfThree a b then .incomplete i else .invalid 1 i)
      | b :: c :: rest =>
        if !isSecondOfThree a b then .error (.invalid 1 i)
        else if !isContinuation c then .error (.invalid 2 i)
        else
          (decodeAt (i + 3) rest).map
            (Char.ofNat (a.toNat % 16 * 4096 + sixBits b * 64 + sixBits c) :: ·)
    else if 0xF0 ≤ a && a ≤ 0xF4 then
      match rest with
      | [] => .error (.incomplete i)
      | [b] => .error (if isSecondOfFour a b then .incomplete i else .invalid 1 i)
      | [b, c] =>
        .error (if !isSecondOfFour a b then .invalid 1 i
          else if isContinuation c then .incomplete i else .invalid 2 i)
      | b :: c :: d :: rest =>
        if !isSecondOfFour a b then .error (.invalid 1 i)
        else if !isContinuation c then .error (.invalid 2 i)
        else if !isContinuation d then .error (.invalid 3 i)
        else
          (decodeAt (i + 4) rest).map
            (Char.ofNat (a.toNat % 8 * 262144 + sixBits b * 4096 + sixBits c * 64 + sixBits d) :: ·)
    else .error (.invalid 1 i)

/-- The text that the bytes spell. -/
def decode (bytes : List UInt8) : Except Fault String :=
  (decodeAt 0 bytes).map String.ofList

/-- The bytes that spell the text. -/
def encode (s : String) : List UInt8 := s.toList.flatMap String.utf8EncodeChar

end TrustAnchor.Text.Utf8
