import TrustAnchor.Text.Utf8
import Mathlib.Tactic.Common

/-! Bytes and text. Bytes that are text are the bytes of that text: no character has two spellings.
And every text comes back from its bytes. -/

namespace TrustAnchor.Text.Utf8

variable {a b c d : UInt8} {i n : Nat} {rest : List UInt8}

private theorem toNat_ofNat (h : n < 0xD800 ∨ 0xDFFF < n ∧ n < 0x110000) :
    (Char.ofNat n).val.toNat = n := by
  rw [Char.ofNat, dif_pos h]
  rfl

private theorem ofNat_eq (h : n = a.toNat) : UInt8.ofNat n = a := by
  rw [h, UInt8.ofNat_toNat]

/-- The bounds that a continuation byte keeps. -/
theorem toNat_of_isContinuation (h : isContinuation b) : 0x80 ≤ b.toNat ∧ b.toNat ≤ 0xBF := by
  simp only [isContinuation, Bool.and_eq_true, decide_eq_true_eq] at h
  exact ⟨UInt8.le_iff_toNat_le.1 h.1, UInt8.le_iff_toNat_le.1 h.2⟩

/-- The second of three bytes rules out overlong forms and surrogates. -/
theorem toNat_of_isSecondOfThree (h : isSecondOfThree a b) :
    0x80 ≤ b.toNat ∧ b.toNat ≤ 0xBF ∧ (a.toNat = 0xE0 → 0xA0 ≤ b.toNat) ∧
      (a.toNat = 0xED → b.toNat ≤ 0x9F) := by
  rw [isSecondOfThree] at h
  split at h
  · rename_i ha
    subst ha
    simp only [Bool.and_eq_true, decide_eq_true_eq, UInt8.le_iff_toNat_le] at h
    have h₁ : 0xA0 ≤ b.toNat := h.1
    have h₂ : b.toNat ≤ 0xBF := h.2
    exact ⟨by omega, h₂, fun _ => h₁, fun he => absurd he (by decide)⟩
  · rename_i ha
    split at h
    · rename_i ha
      subst ha
      simp only [Bool.and_eq_true, decide_eq_true_eq, UInt8.le_iff_toNat_le] at h
      have h₁ : 0x80 ≤ b.toNat := h.1
      have h₂ : b.toNat ≤ 0x9F := h.2
      exact ⟨h₁, by omega, fun he => absurd he (by decide), fun _ => h₂⟩
    · rename_i ha'
      obtain ⟨h₁, h₂⟩ := toNat_of_isContinuation h
      exact ⟨h₁, h₂, fun he => absurd (UInt8.toNat_inj.1 he) ha,
        fun he => absurd (UInt8.toNat_inj.1 he) ha'⟩

/-- The second of four bytes rules out overlong forms and what lies past the last character. -/
theorem toNat_of_isSecondOfFour (h : isSecondOfFour a b) :
    0x80 ≤ b.toNat ∧ b.toNat ≤ 0xBF ∧ (a.toNat = 0xF0 → 0x90 ≤ b.toNat) ∧
      (a.toNat = 0xF4 → b.toNat ≤ 0x8F) := by
  rw [isSecondOfFour] at h
  split at h
  · rename_i ha
    subst ha
    simp only [Bool.and_eq_true, decide_eq_true_eq, UInt8.le_iff_toNat_le] at h
    have h₁ : 0x90 ≤ b.toNat := h.1
    have h₂ : b.toNat ≤ 0xBF := h.2
    exact ⟨by omega, h₂, fun _ => h₁, fun he => absurd he (by decide)⟩
  · rename_i ha
    split at h
    · rename_i ha
      subst ha
      simp only [Bool.and_eq_true, decide_eq_true_eq, UInt8.le_iff_toNat_le] at h
      have h₁ : 0x80 ≤ b.toNat := h.1
      have h₂ : b.toNat ≤ 0x8F := h.2
      exact ⟨h₁, by omega, fun he => absurd he (by decide), fun _ => h₂⟩
    · rename_i ha'
      obtain ⟨h₁, h₂⟩ := toNat_of_isContinuation h
      exact ⟨h₁, h₂, fun he => absurd (UInt8.toNat_inj.1 he) ha,
        fun he => absurd (UInt8.toNat_inj.1 he) ha'⟩

theorem encode_one (ha : a < 0x80) : String.utf8EncodeChar (Char.ofNat a.toNat) = [a] := by
  have ha : a.toNat < 0x80 := UInt8.lt_iff_toNat_lt.1 ha
  simp only [String.utf8EncodeChar, toNat_ofNat (n := a.toNat) (by omega)]
  rw [if_pos (by omega), ofNat_eq rfl]

theorem encode_two (ha : 0xC2 ≤ a && a ≤ 0xDF) (hb : isContinuation b) :
    String.utf8EncodeChar (Char.ofNat (a.toNat % 32 * 64 + sixBits b)) = [a, b] := by
  simp only [Bool.and_eq_true, decide_eq_true_eq] at ha
  have ha₁ : 0xC2 ≤ a.toNat := UInt8.le_iff_toNat_le.1 ha.1
  have ha₂ : a.toNat ≤ 0xDF := UInt8.le_iff_toNat_le.1 ha.2
  obtain ⟨hb₁, hb₂⟩ := toNat_of_isContinuation hb
  simp only [sixBits, String.utf8EncodeChar,
    toNat_ofNat (n := a.toNat % 32 * 64 + b.toNat % 64) (by omega)]
  rw [if_neg (by omega), if_pos (by omega)]
  rw [ofNat_eq (a := a) (by omega), ofNat_eq (a := b) (by omega)]

theorem encode_three (ha : 0xE0 ≤ a && a ≤ 0xEF) (hb : isSecondOfThree a b)
    (hc : isContinuation c) :
    String.utf8EncodeChar (Char.ofNat (a.toNat % 16 * 4096 + sixBits b * 64 + sixBits c)) =
      [a, b, c] := by
  simp only [Bool.and_eq_true, decide_eq_true_eq] at ha
  have ha₁ : 0xE0 ≤ a.toNat := UInt8.le_iff_toNat_le.1 ha.1
  have ha₂ : a.toNat ≤ 0xEF := UInt8.le_iff_toNat_le.1 ha.2
  obtain ⟨hb₁, hb₂, hlow, hhigh⟩ := toNat_of_isSecondOfThree hb
  obtain ⟨hc₁, hc₂⟩ := toNat_of_isContinuation hc
  simp only [sixBits, String.utf8EncodeChar,
    toNat_ofNat (n := a.toNat % 16 * 4096 + b.toNat % 64 * 64 + c.toNat % 64) (by omega)]
  rw [if_neg (by omega), if_neg (by omega), if_pos (by omega)]
  rw [ofNat_eq (a := a) (by omega), ofNat_eq (a := b) (by omega), ofNat_eq (a := c) (by omega)]

theorem encode_four (ha : 0xF0 ≤ a && a ≤ 0xF4) (hb : isSecondOfFour a b)
    (hc : isContinuation c) (hd : isContinuation d) :
    String.utf8EncodeChar (Char.ofNat
      (a.toNat % 8 * 262144 + sixBits b * 4096 + sixBits c * 64 + sixBits d)) = [a, b, c, d] := by
  simp only [Bool.and_eq_true, decide_eq_true_eq] at ha
  have ha₁ : 0xF0 ≤ a.toNat := UInt8.le_iff_toNat_le.1 ha.1
  have ha₂ : a.toNat ≤ 0xF4 := UInt8.le_iff_toNat_le.1 ha.2
  obtain ⟨hb₁, hb₂, hlow, hhigh⟩ := toNat_of_isSecondOfFour hb
  obtain ⟨hc₁, hc₂⟩ := toNat_of_isContinuation hc
  obtain ⟨hd₁, hd₂⟩ := toNat_of_isContinuation hd
  simp only [sixBits, String.utf8EncodeChar, toNat_ofNat
    (n := a.toNat % 8 * 262144 + b.toNat % 64 * 4096 + c.toNat % 64 * 64 + d.toNat % 64) (by omega)]
  rw [if_neg (by omega), if_neg (by omega), if_neg (by omega)]
  rw [ofNat_eq (a := a) (by omega), ofNat_eq (a := b) (by omega), ofNat_eq (a := c) (by omega),
    ofNat_eq (a := d) (by omega)]

theorem encode_of_decodeAt {i : Nat} {bytes : List UInt8} {chars : List Char}
    (h : decodeAt i bytes = .ok chars) : chars.flatMap String.utf8EncodeChar = bytes := by
  -- One more character in front of what the remaining bytes spell.
  have cons {i : Nat} {char : Char} {front rest : List UInt8}
      (hchar : String.utf8EncodeChar char = front)
      (ih : ∀ {chars}, decodeAt i rest = .ok chars → chars.flatMap String.utf8EncodeChar = rest)
      {chars : List Char} (h : (decodeAt i rest).map (char :: ·) = .ok chars) :
      chars.flatMap String.utf8EncodeChar = front ++ rest := by
    cases hrest : decodeAt i rest with
    | error fault =>
      rw [hrest] at h
      cases h
    | ok tail =>
      rw [hrest] at h
      cases h
      rw [List.flatMap_cons, hchar, ih hrest]
  fun_induction decodeAt i bytes generalizing chars with
  | case1 =>
    cases h
    rfl
  | case2 i a rest ha ih => exact cons (encode_one ha) ih h
  | case4 i a _ ha b rest hb ih => exact cons (encode_two ha hb) ih h
  | case10 i a _ _ ha b c rest hb hc ih =>
    exact cons (encode_three ha (by simpa using hb) (by simpa using hc)) ih h
  | case17 i a _ _ _ ha b c d rest hb hc hd ih =>
    exact cons (encode_four ha (by simpa using hb) (by simpa using hc) (by simpa using hd)) ih h
  | _ => cases h

theorem encode_of_decode {bytes : List UInt8} {s : String} (h : decode bytes = .ok s) :
    encode s = bytes := by
  rw [decode] at h
  cases hchars : decodeAt 0 bytes with
  | error fault =>
    rw [hchars] at h
    cases h
  | ok chars =>
    rw [hchars] at h
    cases h
    rw [encode, String.toList_ofList]
    exact encode_of_decodeAt hchars

theorem isContinuation_of_toNat (h : 0x80 ≤ b.toNat) (h' : b.toNat ≤ 0xBF) : isContinuation b := by
  simp only [isContinuation, Bool.and_eq_true, decide_eq_true_eq, UInt8.le_iff_toNat_le]
  exact ⟨h, h'⟩

theorem isSecondOfThree_of_toNat (h : 0x80 ≤ b.toNat) (h' : b.toNat ≤ 0xBF)
    (hlow : a.toNat = 0xE0 → 0xA0 ≤ b.toNat) (hhigh : a.toNat = 0xED → b.toNat ≤ 0x9F) :
    isSecondOfThree a b := by
  rw [isSecondOfThree]
  split
  · rename_i ha
    subst ha
    simp only [Bool.and_eq_true, decide_eq_true_eq, UInt8.le_iff_toNat_le]
    exact ⟨hlow rfl, h'⟩
  · split
    · rename_i ha
      subst ha
      simp only [Bool.and_eq_true, decide_eq_true_eq, UInt8.le_iff_toNat_le]
      exact ⟨h, hhigh rfl⟩
    · exact isContinuation_of_toNat h h'

theorem isSecondOfFour_of_toNat (h : 0x80 ≤ b.toNat) (h' : b.toNat ≤ 0xBF)
    (hlow : a.toNat = 0xF0 → 0x90 ≤ b.toNat) (hhigh : a.toNat = 0xF4 → b.toNat ≤ 0x8F) :
    isSecondOfFour a b := by
  rw [isSecondOfFour]
  split
  · rename_i ha
    subst ha
    simp only [Bool.and_eq_true, decide_eq_true_eq, UInt8.le_iff_toNat_le]
    exact ⟨hlow rfl, h'⟩
  · split
    · rename_i ha
      subst ha
      simp only [Bool.and_eq_true, decide_eq_true_eq, UInt8.le_iff_toNat_le]
      exact ⟨h, hhigh rfl⟩
    · exact isContinuation_of_toNat h h'

private theorem not_one (h : 0x80 ≤ a.toNat) : ¬ a < 0x80 := by
  rw [UInt8.lt_iff_toNat_lt]
  exact Nat.not_lt.2 h

private theorem between (h : b.toNat ≤ a.toNat) (h' : a.toNat ≤ c.toNat) :
    (b ≤ a && a ≤ c) = true := by
  simp only [Bool.and_eq_true, decide_eq_true_eq, UInt8.le_iff_toNat_le]
  exact ⟨h, h'⟩

private theorem not_between (h : c.toNat < a.toNat) : ¬ (b ≤ a && a ≤ c) = true := by
  simp only [Bool.and_eq_true, decide_eq_true_eq, UInt8.le_iff_toNat_le]
  exact fun hc => absurd hc.2 (Nat.not_le.2 h)

theorem decode_one (ha : a.toNat < 0x80) :
    decodeAt i (a :: rest) = (decodeAt (i + 1) rest).map (Char.ofNat a.toNat :: ·) := by
  have ha : a < 0x80 := UInt8.lt_iff_toNat_lt.2 ha
  rw [decodeAt.eq_def]
  simp only [if_pos ha]

theorem decode_two (ha : 0xC2 ≤ a.toNat) (ha' : a.toNat ≤ 0xDF) (hb : isContinuation b) :
    decodeAt i (a :: b :: rest) =
      (decodeAt (i + 2) rest).map (Char.ofNat (a.toNat % 32 * 64 + sixBits b) :: ·) := by
  have hone : ¬ a < 0x80 := not_one (Nat.le_trans (by decide) ha)
  have hsize : (0xC2 ≤ a && a ≤ 0xDF) = true := between ha ha'
  rw [decodeAt.eq_def]
  simp only [if_neg hone, if_pos hsize, if_pos hb]

theorem decode_three (ha : 0xE0 ≤ a.toNat) (ha' : a.toNat ≤ 0xEF) (hb : isSecondOfThree a b)
    (hc : isContinuation c) :
    decodeAt i (a :: b :: c :: rest) = (decodeAt (i + 3) rest).map
      (Char.ofNat (a.toNat % 16 * 4096 + sixBits b * 64 + sixBits c) :: ·) := by
  have hone : ¬ a < 0x80 := not_one (Nat.le_trans (by decide) ha)
  have htwo : ¬ (0xC2 ≤ a && a ≤ 0xDF) = true := not_between (Nat.lt_of_lt_of_le (by decide) ha)
  have hsize : (0xE0 ≤ a && a ≤ 0xEF) = true := between ha ha'
  rw [decodeAt.eq_def]
  simp [hone, htwo, hsize, hb, hc]

theorem decode_four (ha : 0xF0 ≤ a.toNat) (ha' : a.toNat ≤ 0xF4) (hb : isSecondOfFour a b)
    (hc : isContinuation c) (hd : isContinuation d) :
    decodeAt i (a :: b :: c :: d :: rest) = (decodeAt (i + 4) rest).map (Char.ofNat
      (a.toNat % 8 * 262144 + sixBits b * 4096 + sixBits c * 64 + sixBits d) :: ·) := by
  have hone : ¬ a < 0x80 := not_one (Nat.le_trans (by decide) ha)
  have htwo : ¬ (0xC2 ≤ a && a ≤ 0xDF) = true := not_between (Nat.lt_of_lt_of_le (by decide) ha)
  have hthree : ¬ (0xE0 ≤ a && a ≤ 0xEF) = true :=
    not_between (Nat.lt_of_lt_of_le (by decide) ha)
  have hsize : (0xF0 ≤ a && a ≤ 0xF4) = true := between ha ha'
  rw [decodeAt.eq_def]
  simp [hone, htwo, hthree, hsize, hb, hc, hd]

/-- The bytes of a character are read as that character. -/
theorem decodeAt_encodeChar (i : Nat) (char : Char) (rest : List UInt8) :
    ∃ j, decodeAt i (String.utf8EncodeChar char ++ rest) =
      (decodeAt j rest).map (char :: ·) := by
  have hchar : Char.ofNat char.val.toNat = char := char.ofNat_toNat
  have hvalid : char.val.toNat < 0xD800 ∨ 0xDFFF < char.val.toNat ∧ char.val.toNat < 0x110000 :=
    char.valid
  generalize hn : char.val.toNat = n at hchar hvalid
  have byte {m : Nat} (h : m < 256) : (UInt8.ofNat m).toNat = m := UInt8.toNat_ofNat_of_lt' h
  rw [String.utf8EncodeChar]
  simp only [hn]
  split
  · have ha := byte (m := n) (by omega)
    refine ⟨i + 1, ?_⟩
    rw [List.singleton_append, decode_one (by omega), ha, hchar]
  split
  · have ha := byte (m := n / 64 % 32 + 192) (by omega)
    have hb := byte (m := n % 64 + 128) (by omega)
    refine ⟨i + 2, ?_⟩
    have hsecond := isContinuation_of_toNat (b := .ofNat (n % 64 + 128)) (by omega) (by omega)
    have hcode : (n / 64 % 32 + 192) % 32 * 64 + (n % 64 + 128) % 64 = n := by omega
    rw [List.cons_append, List.singleton_append, decode_two (by omega) (by omega) hsecond]
    rw [sixBits, ha, hb, hcode, hchar]
  split
  · have ha := byte (m := n / 4096 % 16 + 224) (by omega)
    have hb := byte (m := n / 64 % 64 + 128) (by omega)
    have hc := byte (m := n % 64 + 128) (by omega)
    refine ⟨i + 3, ?_⟩
    have hsecond := isSecondOfThree_of_toNat (a := .ofNat (n / 4096 % 16 + 224))
      (b := .ofNat (n / 64 % 64 + 128)) (by omega) (by omega) (by omega) (by omega)
    have hthird := isContinuation_of_toNat (b := .ofNat (n % 64 + 128)) (by omega) (by omega)
    have hcode : (n / 4096 % 16 + 224) % 16 * 4096 + (n / 64 % 64 + 128) % 64 * 64 +
        (n % 64 + 128) % 64 = n := by omega
    simp only [List.cons_append, List.nil_append]
    rw [decode_three (by omega) (by omega) hsecond hthird]
    rw [sixBits, sixBits, ha, hb, hc, hcode, hchar]
  · have ha := byte (m := n / 262144 % 8 + 240) (by omega)
    have hb := byte (m := n / 4096 % 64 + 128) (by omega)
    have hc := byte (m := n / 64 % 64 + 128) (by omega)
    have hd := byte (m := n % 64 + 128) (by omega)
    refine ⟨i + 4, ?_⟩
    have hsecond := isSecondOfFour_of_toNat (a := .ofNat (n / 262144 % 8 + 240))
      (b := .ofNat (n / 4096 % 64 + 128)) (by omega) (by omega) (by omega) (by omega)
    have hthird := isContinuation_of_toNat (b := .ofNat (n / 64 % 64 + 128)) (by omega) (by omega)
    have hfourth := isContinuation_of_toNat (b := .ofNat (n % 64 + 128)) (by omega) (by omega)
    have hcode : (n / 262144 % 8 + 240) % 8 * 262144 + (n / 4096 % 64 + 128) % 64 * 4096 +
        (n / 64 % 64 + 128) % 64 * 64 + (n % 64 + 128) % 64 = n := by omega
    simp only [List.cons_append, List.nil_append]
    rw [decode_four (by omega) (by omega) hsecond hthird hfourth]
    rw [sixBits, sixBits, sixBits, ha, hb, hc, hd, hcode, hchar]

/-- Text comes back from its bytes. -/
theorem decode_encode (s : String) : decode (encode s) = .ok s := by
  have hchars : ∀ (chars : List Char) (i : Nat),
      decodeAt i (chars.flatMap String.utf8EncodeChar) = .ok chars := by
    intro chars
    induction chars with
    | nil => exact fun _ => rfl
    | cons char chars ih =>
      intro i
      obtain ⟨j, hchar⟩ := decodeAt_encodeChar i char (chars.flatMap String.utf8EncodeChar)
      rw [List.flatMap_cons, hchar, ih j]
      rfl
  rw [decode, encode, hchars]
  exact congrArg Except.ok s.ofList_toList

theorem encode_ne_nil {s : String} (h : s ≠ "") : encode s ≠ [] := by
  intro hnil
  have hdecode := decode_encode s
  rw [hnil] at hdecode
  exact h (Except.ok.inj hdecode).symm

end TrustAnchor.Text.Utf8
