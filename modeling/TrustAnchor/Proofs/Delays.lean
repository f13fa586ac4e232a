import TrustAnchor.Proofs.Success
import TrustAnchor.Settings
import Mathlib.Algebra.Order.Field.Power
import Mathlib.Data.Nat.Cast.Order.Field
import Mathlib.Tactic.FieldSimp
import Mathlib.Tactic.Linarith
import Mathlib.Tactic.Positivity
import Mathlib.Tactic.Ring

/-! The delays of the schedule of every write can all be computed, whatever fractions are drawn. A
rounded double is not far from what it was rounded from, so nothing comes near to the numbers that
are no spans of time. -/

namespace TrustAnchor

namespace Binary64

/-- A number from zero to one. -/
def Fraction (u : Binary64) : Prop := ∃ m j : Nat, u = .finite false m (-j) ∧ m ≤ 2 ^ j

/-- The number is not negative, and no greater than `2 ^ k`. -/
def AtMost (k : Nat) (x : Binary64) : Prop :=
  ∃ (m : Nat) (e : Int), x = .finite false m e ∧ (m : ℚ) * 2 ^ e ≤ 2 ^ k

variable {n d k j m : Nat} {e p : Int} {x y u : Binary64}

theorem divNearest_le : (divNearest n d : ℚ) ≤ n / d + 1 := by
  have hquotient : divNearest n d ≤ n / d + 1 := by
    unfold divNearest
    dsimp only
    split
    · omega
    · split
      · omega
      · split <;> omega
  calc
    (divNearest n d : ℚ) ≤ ((n / d + 1 : Nat) : ℚ) := by exact_mod_cast hquotient
    _ = ((n / d : Nat) : ℚ) + 1 := by push_cast; ring
    _ ≤ (n : ℚ) / d + 1 := by
      have := @Nat.cast_div_le ℚ _ _ _ n d
      linarith

theorem scaledNearest_le (h : 0 < d) :
    (scaledNearest n d p : ℚ) * 2 ^ p ≤ (n : ℚ) / d + 2 ^ p := by
  have hpos : (0 : ℚ) < 2 ^ p := by positivity
  have hd : (0 : ℚ) < d := by exact_mod_cast h
  have hscaled : (scaledNearest n d p : ℚ) ≤ (n : ℚ) / d / 2 ^ p + 1 := by
    unfold scaledNearest
    split
    · rename_i hp
      obtain ⟨i, rfl⟩ := Int.eq_ofNat_of_zero_le hp
      have hle := @divNearest_le n (d * 2 ^ i)
      simpa [div_div] using hle
    · rename_i hp
      obtain ⟨i, rfl⟩ : ∃ i : Nat, p = -i := ⟨(-p).toNat, by omega⟩
      have hle := @divNearest_le (n * 2 ^ i) d
      simpa [div_eq_mul_inv, mul_assoc, mul_comm, mul_left_comm] using hle
  calc
    (scaledNearest n d p : ℚ) * 2 ^ p ≤ ((n : ℚ) / d / 2 ^ p + 1) * 2 ^ p := by gcongr
    _ = (n : ℚ) / d + 2 ^ p := by field_simp

/-- The last place of a quotient is far below it. -/
theorem unitExponent_le (hn : n ≠ 0) (h : n ≤ d * 2 ^ k) : unitExponent n d ≤ k := by
  have hlog : n.log2 < d.log2 + 1 + k := by
    refine (Nat.log2_lt hn).2 (h.trans_lt ?_)
    rw [Nat.pow_add]
    exact Nat.mul_lt_mul_of_pos_right Nat.lt_log2_self (Nat.two_pow_pos k)
  unfold unitExponent
  dsimp only
  split <;> omega

theorem atMost_ofRatio (hd : 0 < d) (h : n ≤ d * 2 ^ k) (hk : k < 1000) :
    (ofRatio false n d).AtMost (k + 1) := by
  unfold ofRatio
  by_cases hn : n = 0
  · rw [if_pos hn]
    exact ⟨0, 0, rfl, by simp⟩
  · rw [if_neg hn]
    dsimp only
    have hd' : (0 : ℚ) < d := by exact_mod_cast hd
    have hvalue : (scaledNearest n d (unitExponent n d) : ℚ) * 2 ^ unitExponent n d ≤
        2 ^ (k + 1) := by
      have hquotient : (n : ℚ) / d ≤ 2 ^ k := by
        rw [div_le_iff₀ hd', mul_comm]
        exact_mod_cast h
      have hplace : (2 : ℚ) ^ unitExponent n d ≤ 2 ^ k := by
        rw [← zpow_natCast]
        exact zpow_le_zpow_right₀ one_le_two (unitExponent_le hn h)
      have hle := scaledNearest_le (n := n) (p := unitExponent n d) hd
      rw [pow_succ]
      linarith
    rw [if_neg]
    · exact ⟨_, _, rfl, hvalue⟩
    · rintro ⟨hm, hlarge⟩
      -- A mantissa beyond all doubles would be beyond the bound.
      have hlog : ((2 : ℚ) ^ (scaledNearest n d (unitExponent n d)).log2) ≤
          scaledNearest n d (unitExponent n d) := by
        exact_mod_cast Nat.log2_self_le hm
      have hpos : (0 : ℚ) < 2 ^ unitExponent n d := by positivity
      have hbound : (2 : ℚ) ^ (((scaledNearest n d (unitExponent n d)).log2 : Int) +
          unitExponent n d) ≤ 2 ^ ((k + 1 : Nat) : Int) := by
        rw [zpow_add₀ two_ne_zero, zpow_natCast, zpow_natCast]
        exact (mul_le_mul_of_nonneg_right hlog hpos.le).trans hvalue
      have := (zpow_le_zpow_iff_right₀ (one_lt_two (α := ℚ))).1 hbound
      omega

theorem atMost_ofScaled (h : (m : ℚ) * 2 ^ e ≤ 2 ^ k) (hk : k < 1000) :
    (ofScaled false m e).AtMost (k + 1) := by
  unfold ofScaled
  split
  · rename_i he
    obtain ⟨i, rfl⟩ := Int.eq_ofNat_of_zero_le he
    refine atMost_ofRatio Nat.one_pos ?_ hk
    rw [Nat.one_mul]
    exact_mod_cast h
  · rename_i he
    obtain ⟨i, rfl⟩ : ∃ i : Nat, e = -i := ⟨(-e).toNat, by omega⟩
    have hpos : (0 : ℚ) < 2 ^ i := by positivity
    rw [zpow_neg, zpow_natCast, ← div_eq_mul_inv, div_le_iff₀ hpos] at h
    refine atMost_ofRatio (Nat.two_pow_pos _) ?_ hk
    have hle : m ≤ 2 ^ k * 2 ^ i := by exact_mod_cast h
    simpa [Nat.mul_comm] using hle

theorem AtMost.mul (hx : x.AtMost k) (hy : y.AtMost j) (h : k + j < 1000) :
    (x.mul y).AtMost (k + j + 1) := by
  obtain ⟨m, e, rfl, hm⟩ := hx
  obtain ⟨n, f, rfl, hn⟩ := hy
  refine atMost_ofScaled ?_ h
  calc
    ((m * n : Nat) : ℚ) * 2 ^ (e + f) = (m * 2 ^ e) * (n * 2 ^ f) := by
      rw [zpow_add₀ two_ne_zero]
      push_cast
      ring
    _ ≤ 2 ^ k * 2 ^ j := by gcongr
    _ = 2 ^ (k + j) := (pow_add ..).symm

theorem fraction_half : (ofRatio false 1 2).Fraction := ⟨2 ^ 52, 53, by decide +kernel, by decide⟩

/-- A sum of numbers that are not negative is rounded once. -/
private theorem add_finite {n : Nat} {f : Int} (hm : m ≠ 0) :
    (finite false m e).add (finite false n f) = ofScaled false
      (m * 2 ^ (e - min e f).toNat + n * 2 ^ (f - min e f).toNat) (min e f) := by
  have hsum : (m : Int) * (Nat.pow 2 (e - min e f).toNat : Nat) +
      (n : Int) * (Nat.pow 2 (f - min e f).toNat : Nat) =
        ((m * 2 ^ (e - min e f).toNat + n * 2 ^ (f - min e f).toNat : Nat) : Int) := by
    simp
  have hpos : 0 < m * 2 ^ (e - min e f).toNat + n * 2 ^ (f - min e f).toNat :=
    Nat.add_pos_left (Nat.mul_pos (Nat.pos_of_ne_zero hm) (Nat.two_pow_pos _)) _
  show (if (m : Int) * (Nat.pow 2 (e - min e f).toNat : Nat) +
      (n : Int) * (Nat.pow 2 (f - min e f).toNat : Nat) = 0 then finite false 0 0 else
        ofScaled (decide ((m : Int) * (Nat.pow 2 (e - min e f).toNat : Nat) +
          (n : Int) * (Nat.pow 2 (f - min e f).toNat : Nat) < 0))
          ((m : Int) * (Nat.pow 2 (e - min e f).toNat : Nat) +
            (n : Int) * (Nat.pow 2 (f - min e f).toNat : Nat)).natAbs (min e f)) = _
  rw [hsum, if_neg (by omega), Int.natAbs_natCast, decide_eq_false (by omega)]

theorem Fraction.atMost_stretch (H : u.Fraction) : (Schedule.stretch u).AtMost 2 := by
  obtain ⟨m, j, rfl, hm⟩ := H
  have hhalf : ofRatio false 1 2 = finite false (2 ^ 52) (-53) := by decide +kernel
  have hj : (0 : ℚ) < 2 ^ j := by positivity
  rw [Schedule.stretch, hhalf, add_finite (by decide)]
  have hfraction : (m : ℚ) * 2 ^ (-(j : Int)) ≤ 1 := by
    rw [zpow_neg, zpow_natCast, ← div_eq_mul_inv, div_le_one hj]
    exact_mod_cast hm
  have hlow : min (-53) (-(j : Int)) ≤ -53 := min_le_left _ _
  have hlow' : min (-53) (-(j : Int)) ≤ -(j : Int) := min_le_right _ _
  generalize min (-53) (-(j : Int)) = low at hlow hlow' ⊢
  have hscale {e : Int} (h : low ≤ e) : (2 : ℚ) ^ (e - low).toNat * 2 ^ low = 2 ^ e := by
    rw [← zpow_natCast, Int.toNat_of_nonneg (by omega), ← zpow_add₀ two_ne_zero, sub_add_cancel]
  refine atMost_ofScaled (k := 1) ?_ (by decide)
  push_cast
  calc
    ((2 : ℚ) ^ 52 * 2 ^ (-53 - low).toNat + m * 2 ^ (-(j : Int) - low).toNat) * 2 ^ low =
        (2 : ℚ) ^ 52 * (2 ^ (-53 - low).toNat * 2 ^ low) +
          m * (2 ^ (-(j : Int) - low).toNat * 2 ^ low) := by ring
    _ = (2 : ℚ) ^ 52 * 2 ^ (-53 : Int) + m * 2 ^ (-(j : Int)) := by rw [hscale hlow, hscale hlow']
    _ ≤ 2 ^ 1 := by
      have : (2 : ℚ) ^ 52 * 2 ^ (-53 : Int) ≤ 1 := by norm_num
      linarith

/-- What is far below `2 ^ 64` seconds is a span of time. -/
theorem AtMost.duration (H : x.AtMost k) (hk : k < 64) : ∃ d, Duration.ofBinary64? x = .ok d := by
  obtain ⟨m, e, rfl, hm⟩ := H
  have hlt : (2 : ℚ) ^ k < 2 ^ 64 := pow_lt_pow_right₀ one_lt_two hk
  unfold Duration.ofBinary64?
  dsimp only
  rw [if_neg (by simp), if_neg]
  · exact ⟨_, rfl⟩
  · rw [not_le]
    split
    · rename_i he
      obtain ⟨i, rfl⟩ := Int.eq_ofNat_of_zero_le he
      rw [Nat.mul_one]
      exact_mod_cast hm.trans_lt hlt
    · rename_i he
      obtain ⟨i, rfl⟩ : ∃ i : Nat, e = -i := ⟨(-e).toNat, by omega⟩
      have hpos : (0 : ℚ) < 2 ^ i := by positivity
      rw [zpow_neg, zpow_natCast, ← div_eq_mul_inv, div_le_iff₀ hpos] at hm
      have hlt' : (m : ℚ) < 2 ^ 64 * 2 ^ i := hm.trans_lt (mul_lt_mul_of_pos_right hlt hpos)
      have hnat : m < 2 ^ 64 * 2 ^ i := by exact_mod_cast hlt'
      simpa using hnat

end Binary64

namespace Schedule

open Binary64

variable {u : Binary64} {delay : Duration} {k rounds : Nat}

theorem pause_of_atMost (H : delay.toBinary64.AtMost k) (hk : k < 60) (hu : u.Fraction) :
    ∃ pause, Schedule.pause delay u = .ok pause :=
  (H.mul hu.atMost_stretch (by omega)).duration (by omega)

/-- A delay of at most a second, after which the schedule stays steady. -/
theorem Steady.before {s : Schedule} {next : Duration} (H : delay.toBinary64.AtMost 0)
    (hnext : s.nextDelay delay = .ok next) (hsteady : ∀ rounds, s.Steady Fraction rounds next) :
    ∀ rounds, s.Steady Fraction rounds delay
  | 0 => trivial
  | rounds + 1 => ⟨fun _ => pause_of_atMost H (by decide), next, hnext, hsteady rounds⟩

end Schedule

/-- Every write is made on a steady schedule: its delays are those of ten milliseconds, five times as
long, five times as long again, and from then on a second. -/
theorem Settings.steady_schedule (s : Settings) (rounds : Nat) :
    s.schedule.Steady Binary64.Fraction rounds s.schedule.initialDelay := by
  have hten : (Duration.ofMillis 10).toBinary64.AtMost 0 :=
    ⟨5764607523034235, -59, by decide +kernel, by norm_num⟩
  have hfifty : (Duration.ofMillis 50).toBinary64.AtMost 0 :=
    ⟨7205759403792794, -57, by decide +kernel, by norm_num⟩
  have hquarter : (Duration.ofMillis 250).toBinary64.AtMost 0 :=
    ⟨4503599627370496, -54, by decide +kernel, by norm_num⟩
  have hsecond : (Duration.ofSeconds 1).toBinary64.AtMost 0 :=
    ⟨4503599627370496, -52, by decide +kernel, by norm_num⟩
  have hnext₁ : s.schedule.nextDelay (.ofMillis 10) = .ok (.ofMillis 50) := by
    show Schedule.onConflict.nextDelay _ = _
    decide +kernel
  have hnext₂ : s.schedule.nextDelay (.ofMillis 50) = .ok (.ofMillis 250) := by
    show Schedule.onConflict.nextDelay _ = _
    decide +kernel
  have hnext₃ : s.schedule.nextDelay (.ofMillis 250) = .ok (.ofSeconds 1) := by
    show Schedule.onConflict.nextDelay _ = _
    decide +kernel
  have hnext₄ : s.schedule.nextDelay (.ofSeconds 1) = .ok (.ofSeconds 1) := by
    show Schedule.onConflict.nextDelay _ = _
    decide +kernel
  have hlast (rounds : Nat) : s.schedule.Steady Binary64.Fraction rounds (.ofSeconds 1) := by
    induction rounds with
    | zero => trivial
    | succ rounds ih =>
      exact ⟨fun _ => Schedule.pause_of_atMost hsecond (by decide), .ofSeconds 1, hnext₄, ih⟩
  refine Schedule.Steady.before hten hnext₁ ?_ rounds
  refine Schedule.Steady.before hfifty hnext₂ ?_
  exact Schedule.Steady.before hquarter hnext₃ hlast

end TrustAnchor
