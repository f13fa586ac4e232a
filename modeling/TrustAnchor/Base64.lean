/-! Base64 with the standard alphabet and canonical padding: every text of bytes has exactly one
encoding, and decoding refuses all others, naming the first fault. -/

namespace TrustAnchor.Base64

/-- What keeps bytes from being an encoding. -/
inductive Fault where
  /-- A byte outside the alphabet, or a pad before the end. -/
  | symbol (byte : UInt8) (offset : Nat)
  /-- The last symbol carries bits that encode nothing. -/
  | lastSymbol (byte : UInt8) (offset : Nat)
  /-- A single symbol is left over. -/
  | length (n : Nat)
  /-- Pads are missing. -/
  | padding
  deriving DecidableEq, Repr

def Fault.message : Fault → String
  | .symbol byte offset =>
    "Invalid symbol " ++ byte.toNat.repr ++ ", offset " ++ offset.repr ++ "."
  | .lastSymbol byte offset =>
    "Invalid last symbol " ++ byte.toNat.repr ++ ", offset " ++ offset.repr ++ "."
  | .length n => "Invalid input length: " ++ n.repr
  | .padding => "Invalid padding"

/-- The byte `=`. -/
def pad : UInt8 := 61

/-- The symbol for six bits. -/
def symbol (v : Nat) : UInt8 :=
  (if v < 26 then 65 + v else if v < 52 then 71 + v else if v < 62 then v - 4
    else if v = 62 then 43 else 47).toUInt8

/-- The six bits that a symbol stands for. -/
def value? (b : UInt8) : Option Nat :=
  let n := b.toNat
  if 65 ≤ n ∧ n ≤ 90 then some (n - 65)
  else if 97 ≤ n ∧ n ≤ 122 then some (n - 71)
  else if 48 ≤ n ∧ n ≤ 57 then some (n + 4)
  else if n = 43 then some 62
  else if n = 47 then some 63
  else none

/-- Three bytes become four symbols; one or two left over are padded to four. -/
def encode : List UInt8 → List UInt8
  | [] => []
  | [a] => [symbol (a.toNat / 4), symbol (a.toNat % 4 * 16), pad, pad]
  | [a, b] =>
    [symbol (a.toNat / 4), symbol (a.toNat % 4 * 16 + b.toNat / 16),
      symbol (b.toNat % 16 * 4), pad]
  | a :: b :: c :: rest =>
    symbol (a.toNat / 4) :: symbol (a.toNat % 4 * 16 + b.toNat / 16)
      :: symbol (b.toNat % 16 * 4 + c.toNat / 64) :: symbol (c.toNat % 64) :: encode rest

/-- The encoding as text. -/
def encodeText (bytes : List UInt8) : String :=
  String.ofList ((encode bytes).map fun b => Char.ofNat b.toNat)

/-- The three bytes of four values. -/
def triple (a b c d : Nat) : List UInt8 :=
  [(a * 4 + b / 16).toUInt8, (b % 16 * 16 + c / 4).toUInt8, (c % 4 * 64 + d).toUInt8]

/-- The value of a symbol at an offset. -/
private def valueAt (b : UInt8) (offset : Nat) : Except Fault Nat :=
  match value? b with
  | some v => .ok v
  | none => .error (.symbol b offset)

/-- What is known of the last group of symbols once part of it is read: its values, the last of its
symbols, and its pads. -/
private structure Tail where
  values : List Nat := []
  last : UInt8 := 0
  pads : Nat := 0
  firstPad : Nat := 0

private def readTail (start : Nat) : Nat → Tail → List UInt8 → Except Fault Tail
  | _, t, [] => .ok t
  | i, t, b :: rest =>
    if b = pad then
      if i < 2 then .error (.symbol b (start + i))
      else
        readTail start (i + 1)
          { t with pads := t.pads + 1, firstPad := if t.pads = 0 then i else t.firstPad } rest
    else if 0 < t.pads then .error (.symbol pad (start + t.firstPad))
    else
      match valueAt b (start + i) with
      | .error e => .error e
      | .ok v => readTail start (i + 1) { t with values := t.values ++ [v], last := b } rest

/-- The last group: at most four symbols, pads among them. -/
private def decodeTail (start : Nat) (bytes : List UInt8) : Except Fault (List UInt8) := do
  if bytes.isEmpty && start == 0 then return []
  let t ← readTail start 0 {} bytes
  let n := t.values.length
  if n < 2 then throw (.length (start + n))
  if (t.pads + n) % 4 ≠ 0 then throw .padding
  let last := Fault.lastSymbol t.last (start + n - 1)
  match t.values with
  | [a, b] => if b % 16 = 0 then pure [(a * 4 + b / 16).toUInt8] else throw last
  | [a, b, c] => if c % 4 = 0 then pure ((triple a b c 0).take 2) else throw last
  | [a, b, c, d] => pure (triple a b c d)
  | _ => throw (.length (start + n))

/-- Groups of four symbols as long as more than four are left, then the last group. -/
private def decodeFrom (start : Nat) : List UInt8 → Except Fault (List UInt8)
  | a :: b :: c :: d :: e :: rest => do
    let va ← valueAt a start
    let vb ← valueAt b (start + 1)
    let vc ← valueAt c (start + 2)
    let vd ← valueAt d (start + 3)
    let bytes ← decodeFrom (start + 4) (e :: rest)
    return triple va vb vc vd ++ bytes
  | bytes => decodeTail start bytes

/-- The bytes of an encoding. A stray byte at the very end, such as a line break, is reported first
when it makes the length impossible. -/
def decode (bytes : List UInt8) : Except Fault (List UInt8) :=
  match bytes.getLast? with
  | some last =>
    if bytes.length % 4 = 1 ∧ last ≠ pad ∧ (value? last).isNone then
      .error (.symbol last (bytes.length - 1))
    else decodeFrom 0 bytes
  | none => .ok []

end TrustAnchor.Base64
