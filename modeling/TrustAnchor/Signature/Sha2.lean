import TrustAnchor.Der

/-! The hash functions SHA-256 and SHA-512, and the keyed hash made of each. The message is padded
to whole blocks of sixteen words, and each block stirs a state of eight words. The two functions
differ in the width of their words, in the number of rounds and in how far words are turned. -/

namespace TrustAnchor.Signature

/-- A function of the family. Its turns come in threes. -/
structure Sha2 where
  /-- The bits of a word. -/
  width : Nat
  rounds : Nat
  /-- The turns of the first and of the fifth word of the state. -/
  large : (Nat × Nat × Nat) × (Nat × Nat × Nat)
  /-- The turns of the words that the schedule is extended by; the last of each three shifts. -/
  small : (Nat × Nat × Nat) × (Nat × Nat × Nat)

def sha256 : Sha2 where
  width := 32
  rounds := 64
  large := ((2, 13, 22), (6, 11, 25))
  small := ((7, 18, 3), (17, 19, 10))

def sha512 : Sha2 where
  width := 64
  rounds := 80
  large := ((28, 34, 39), (14, 18, 41))
  small := ((1, 8, 7), (19, 61, 6))

namespace Sha2

variable (v : Sha2)

/-- A number in a given number of bytes, the most significant first. -/
def bytesOf (width n : Nat) : List UInt8 :=
  (List.range width).reverse.map fun i => (n / Nat.pow 256 i % 256).toUInt8

/-- The first bits of the fractions of the square roots of the first eight primes. -/
private def squareRoots : List Nat :=
  [0x6a09e667f3bcc908, 0xbb67ae8584caa73b, 0x3c6ef372fe94f82b, 0xa54ff53a5f1d36f1,
    0x510e527fade682d1, 0x9b05688c2b3e6c1f, 0x1f83d9abfb41bd6b, 0x5be0cd19137e2179]

/-- The first bits of the fractions of the cube roots of the first eighty primes. -/
private def cubeRoots : List Nat :=
  [0x428a2f98d728ae22, 0x7137449123ef65cd, 0xb5c0fbcfec4d3b2f, 0xe9b5dba58189dbbc,
    0x3956c25bf348b538, 0x59f111f1b605d019, 0x923f82a4af194f9b, 0xab1c5ed5da6d8118,
    0xd807aa98a3030242, 0x12835b0145706fbe, 0x243185be4ee4b28c, 0x550c7dc3d5ffb4e2,
    0x72be5d74f27b896f, 0x80deb1fe3b1696b1, 0x9bdc06a725c71235, 0xc19bf174cf692694,
    0xe49b69c19ef14ad2, 0xefbe4786384f25e3, 0x0fc19dc68b8cd5b5, 0x240ca1cc77ac9c65,
    0x2de92c6f592b0275, 0x4a7484aa6ea6e483, 0x5cb0a9dcbd41fbd4, 0x76f988da831153b5,
    0x983e5152ee66dfab, 0xa831c66d2db43210, 0xb00327c898fb213f, 0xbf597fc7beef0ee4,
    0xc6e00bf33da88fc2, 0xd5a79147930aa725, 0x06ca6351e003826f, 0x142929670a0e6e70,
    0x27b70a8546d22ffc, 0x2e1b21385c26c926, 0x4d2c6dfc5ac42aed, 0x53380d139d95b3df,
    0x650a73548baf63de, 0x766a0abb3c77b2a8, 0x81c2c92e47edaee6, 0x92722c851482353b,
    0xa2bfe8a14cf10364, 0xa81a664bbc423001, 0xc24b8b70d0f89791, 0xc76c51a30654be30,
    0xd192e819d6ef5218, 0xd69906245565a910, 0xf40e35855771202a, 0x106aa07032bbd1b8,
    0x19a4c116b8d2d0c8, 0x1e376c085141ab53, 0x2748774cdf8eeb99, 0x34b0bcb5e19b48a8,
    0x391c0cb3c5c95a63, 0x4ed8aa4ae3418acb, 0x5b9cca4f7763e373, 0x682e6ff3d6b2b8a3,
    0x748f82ee5defb2fc, 0x78a5636f43172f60, 0x84c87814a1f0ab72, 0x8cc702081a6439ec,
    0x90befffa23631e28, 0xa4506cebde82bde9, 0xbef9a3f7b2c67915, 0xc67178f2e372532b,
    0xca273eceea26619c, 0xd186b8c721c0c207, 0xeada7dd6cde0eb1e, 0xf57d4f7fee6ed178,
    0x06f067aa72176fba, 0x0a637dc5a2c898a6, 0x113f9804bef90dae, 0x1b710b35131c471b,
    0x28db77f523047d84, 0x32caab7b40c72493, 0x3c9ebe0a15c9bebc, 0x431d67c49c100d4c,
    0x4cc5d4becb3e42b6, 0x597f299cfc657e2a, 0x5fcb6fab3ad6faec, 0x6c44198c4a475817]

/-- As many of 64 bits as a word has. -/
private def leading (n : Nat) : BitVec v.width := BitVec.ofNat v.width (n >>> (64 - v.width))

/-- The eight words of the state. -/
structure State where
  a : BitVec v.width
  b : BitVec v.width
  c : BitVec v.width
  d : BitVec v.width
  e : BitVec v.width
  f : BitVec v.width
  g : BitVec v.width
  h : BitVec v.width

/-- The state of some words; words that are missing are zero. -/
private def State.ofWords (words : List (BitVec v.width)) : State v :=
  let w (n : Nat) := words.getD n (BitVec.ofNat v.width 0)
  ⟨w 0, w 1, w 2, w 3, w 4, w 5, w 6, w 7⟩

private def State.words (s : State v) : List (BitVec v.width) :=
  [s.a, s.b, s.c, s.d, s.e, s.f, s.g, s.h]

private def turned (x : BitVec v.width) (turns : Nat × Nat × Nat) : BitVec v.width :=
  x.rotateRight turns.1 ^^^ x.rotateRight turns.2.1 ^^^ x.rotateRight turns.2.2

private def shifted (x : BitVec v.width) (turns : Nat × Nat × Nat) : BitVec v.width :=
  x.rotateRight turns.1 ^^^ x.rotateRight turns.2.1 ^^^ x >>> turns.2.2

/-- One round with a round constant and a word of the schedule. -/
private def round (s : State v) (k w : BitVec v.width) : State v :=
  let choice := (s.e &&& s.f) ^^^ (~~~s.e &&& s.g)
  let t1 := s.h + turned v s.e v.large.2 + choice + k + w
  let majority := (s.a &&& s.b) ^^^ (s.a &&& s.c) ^^^ (s.b &&& s.c)
  ⟨t1 + turned v s.a v.large.1 + majority, s.a, s.b, s.c, s.d + t1, s.e, s.f, s.g⟩

/-- Further words of the schedule, each made of the sixteen before it; the latest comes first. -/
private def expand : (more : Nat) → List (BitVec v.width) → List (BitVec v.width)
  | 0, words => words
  | more + 1, words =>
    let w (n : Nat) := words.getD (n - 1) (BitVec.ofNat v.width 0)
    let next := w 16 + shifted v (w 15) v.small.1 + w 7 + shifted v (w 2) v.small.2
    expand more (next :: words)

/-- The words of a block. -/
private def wordsOf (block : List UInt8) : List (BitVec v.width) :=
  (List.range 16).map fun i =>
    let bytes := (block.drop (i * (v.width / 8))).take (v.width / 8)
    BitVec.ofNat v.width (Der.natOfBytes bytes)

private def stir (s : State v) (block : List UInt8) : State v :=
  let schedule := (expand v (v.rounds - 16) (wordsOf v block).reverse).reverse
  let constants := cubeRoots.map (leading v)
  let t := (constants.zip schedule).foldl (fun t (k, w) => round v t k w) s
  State.ofWords v (List.zipWith (· + ·) (State.words v s) (State.words v t))

/-- The bytes of a block. -/
def blockSize : Nat := 2 * v.width

/-- The length of the message stands at the end of the last block, in two words. -/
private def pad (bytes : List UInt8) : List UInt8 :=
  let n := bytes.length
  let count := v.width / 4
  let zeros := (2 * v.blockSize - 1 - count - n % v.blockSize) % v.blockSize
  bytes ++ 0x80 :: List.replicate zeros 0 ++ bytesOf count (n * 8)

private def blocks (fuel : Nat) (s : State v) (bytes : List UInt8) : State v :=
  match fuel, bytes with
  | _, [] | 0, _ => s
  | fuel + 1, bytes => blocks fuel (stir v s (bytes.take v.blockSize)) (bytes.drop v.blockSize)

/-- The hash of some bytes, in eight words. -/
def hash (bytes : List UInt8) : List UInt8 :=
  let padded := pad v bytes
  let start := State.ofWords v (squareRoots.map (leading v))
  (State.words v (blocks v padded.length start padded)).flatMap fun w =>
    bytesOf (v.width / 8) w.toNat

/-- The hash of some bytes under a key of at most a block. -/
def keyed (key bytes : List UInt8) : List UInt8 :=
  let key := key ++ List.replicate (v.blockSize - key.length) 0
  v.hash (key.map (· ^^^ 0x5C) ++ v.hash (key.map (· ^^^ 0x36) ++ bytes))

end Sha2

end TrustAnchor.Signature
