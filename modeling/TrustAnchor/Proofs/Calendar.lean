import TrustAnchor.Instant
import Mathlib.Tactic.Common

/-! The years of the calendar. A day belongs to a year if it is not before the first day of that
year, but before the first day of the next one; so later days never belong to earlier years, and a
bound on years is a bound on days. -/

namespace TrustAnchor.Date

/-- Days from the first of March of the year zero to the first of March of a year. -/
def daysBeforeMarch (y : Int) : Int := 365 * y + y / 4 - y / 100 + y / 400

/-- A day of an era as centuries, fours of years, and the days that are left. -/
structure Centuries (d c q r : Int) : Prop where
  eq : d = 36524 * c + 1461 * q + r
  century : 0 ≤ c ∧ c ≤ 3
  four : 0 ≤ q ∧ q ≤ 24
  rest : 0 ≤ r ∧ r ≤ 1460
  /-- Only the last century has a leap day at its end. -/
  last : 1461 * q + r < 36524 ∨ c = 3 ∧ q = 24 ∧ r = 1460

namespace Centuries

variable {d c q r y : Int}

theorem exists_of_lt (h : 0 ≤ d) (hd : d < daysInEra) : ∃ c q r, Centuries d c q r := by
  rw [daysInEra] at hd
  by_cases hlast : d = 146096
  · exact ⟨3, 24, 1460, by omega, by omega, by omega, by omega, by omega⟩
  · exact ⟨d / 36524, d % 36524 / 1461, d % 36524 % 1461, by omega, by omega, by omega, by omega,
      by omega⟩

theorem century_eq (H : Centuries d c q r) : d / 36524 - d / 146096 = c := by
  obtain ⟨rfl, hc, hq, hr, hlast | ⟨rfl, rfl, rfl⟩⟩ := H
  · have hcentury : (36524 * c + 1461 * q + r) / 36524 = c := by omega
    have hera : (36524 * c + 1461 * q + r) / 146096 = 0 := by omega
    omega
  · decide

theorem fours_eq (H : Centuries d c q r) :
    d / 1460 = 25 * c + q + (24 * c + q + r) / 1460 := by
  obtain ⟨rfl, -, -, -, -⟩ := H
  omega

/-- The fourth year is the one with the leap day. -/
theorem year_eq (H : Centuries d c q r) :
    (d - d / 1460 + d / 36524 - d / 146096) / 365 = 100 * c + 4 * q + min (r / 365) 3 := by
  have hcentury := H.century_eq
  have hfours := H.fours_eq
  obtain ⟨rfl, hc, hq, hr, hlast⟩ := H
  have hdays : (36524 * c + 1461 * q + r - (36524 * c + 1461 * q + r) / 1460
      + (36524 * c + 1461 * q + r) / 36524 - (36524 * c + 1461 * q + r) / 146096) =
      365 * (100 * c + 4 * q) + (r - (24 * c + q + r) / 1460) := by omega
  have hrest : (r - (24 * c + q + r) / 1460) / 365 = min (r / 365) 3 := by omega
  rw [hdays]
  omega

theorem year_spec (H : Centuries d c q r) (hy : y = 100 * c + 4 * q + min (r / 365) 3) :
    0 ≤ y ∧ y < 400 ∧ daysBeforeMarch y ≤ d ∧ d < daysBeforeMarch (y + 1) := by
  obtain ⟨rfl, hc, hq, hr, hlast⟩ := H
  have hcentury : y / 100 = c := by omega
  have hfours : y / 4 = 25 * c + q := by omega
  have hera : y / 400 = 0 := by omega
  rw [daysBeforeMarch, daysBeforeMarch]
  refine ⟨by omega, by omega, by omega, ?_⟩
  by_cases hfull : r / 365 < 3
  · have hcentury : (y + 1) / 100 = c := by omega
    have hfours : (y + 1) / 4 = 25 * c + q := by omega
    have hera : (y + 1) / 400 = 0 := by omega
    omega
  · have hfours : (y + 1) / 4 = 25 * c + q + 1 := by omega
    rcases hlast with hlast | ⟨rfl, rfl, rfl⟩ <;> omega

end Centuries

variable {n m y : Int}

theorem daysBeforeMarch_add_era (e : Int) :
    daysBeforeMarch (400 * e + y) = e * daysInEra + daysBeforeMarch y := by
  rw [daysBeforeMarch, daysBeforeMarch, daysInEra]
  omega

theorem daysBeforeMarch_add_le (h : y < m) : daysBeforeMarch y + 365 ≤ daysBeforeMarch m := by
  rw [daysBeforeMarch, daysBeforeMarch]
  omega

theorem daysBeforeMarch_mono (h : y ≤ m) : daysBeforeMarch y ≤ daysBeforeMarch m := by
  rw [daysBeforeMarch, daysBeforeMarch]
  omega

/-- Years begin 306 days after the first of March. -/
theorem year_ofDays (n : Int) : ∃ y, daysBeforeMarch y ≤ n + 719468 ∧
    n + 719468 < daysBeforeMarch (y + 1) ∧
    (ofDays n).year = if n + 719468 < daysBeforeMarch y + 306 then y else y + 1 := by
  obtain ⟨d, hd⟩ : ∃ d, d = (n + 719468) % daysInEra := ⟨_, rfl⟩
  obtain ⟨e, he⟩ : ∃ e, e = (n + 719468) / daysInEra := ⟨_, rfl⟩
  have hsum : n + 719468 = e * daysInEra + d := by
    rw [hd, he, daysInEra]
    omega
  obtain ⟨c, q, r, H⟩ : ∃ c q r, Centuries d c q r := by
    refine Centuries.exists_of_lt ?_ ?_ <;> rw [hd, daysInEra] <;> omega
  obtain ⟨hy, hlt, hle, hbefore⟩ := H.year_spec rfl
  rw [← H.year_eq] at hy hlt hle hbefore
  obtain ⟨y, hyear⟩ : ∃ y, y = (d - d / 1460 + d / 36524 - d / 146096) / 365 := ⟨_, rfl⟩
  rw [← hyear] at hy hlt hle hbefore
  refine ⟨400 * e + y, ?_, ?_, ?_⟩
  · rw [daysBeforeMarch_add_era]
    omega
  · rw [Int.add_assoc, daysBeforeMarch_add_era]
    omega
  · rw [daysBeforeMarch_add_era, ofDays]
    dsimp only
    rw [← hd, ← he, ← hyear]
    have hera : daysBeforeMarch y = 365 * y + y / 4 - y / 100 := by
      rw [daysBeforeMarch]
      omega
    obtain ⟨dayOfYear, hday⟩ : ∃ k : Nat, d = daysBeforeMarch y + k :=
      ⟨(d - daysBeforeMarch y).toNat, by omega⟩
    have hof : (d - (365 * y + y / 4 - y / 100)).toNat = dayOfYear := by omega
    rw [hof, Int.mul_comm]
    -- A year that begins in March goes on to December; January and February are in the next one.
    rcases Nat.lt_or_ge dayOfYear 306 with hbefore | hafter
    · rw [if_pos (show (5 * dayOfYear + 2) / 153 < 10 by omega), if_neg (by omega),
        if_pos (by omega)]
    · rw [if_neg (show ¬ (5 * dayOfYear + 2) / 153 < 10 by omega), if_pos (by omega),
        if_neg (by omega)]

theorem toDays_first (y : Int) : toDays ⟨y, 1, 1⟩ = daysBeforeMarch (y - 1) + 306 - 719468 := by
  simp [toDays, daysBeforeMarch, daysBeforeMonth, daysInEra]
  omega

/-- The day is in an earlier year. -/
theorem year_lt_iff : (ofDays n).year < y ↔ n < toDays ⟨y, 1, 1⟩ := by
  obtain ⟨m, hle, hlt, hyear⟩ := year_ofDays n
  rw [hyear, toDays_first]
  split
  · rename_i hbefore
    refine ⟨fun h => ?_, fun h => ?_⟩
    · have := daysBeforeMarch_mono (y := m) (m := y - 1) (by omega)
      omega
    · by_contra hge
      have := daysBeforeMarch_add_le (y := y - 1) (m := m) (by omega)
      omega
  · rename_i hafter
    refine ⟨fun h => ?_, fun h => ?_⟩
    · have := daysBeforeMarch_mono (y := m + 1) (m := y - 1) (by omega)
      omega
    · by_contra hge
      have := daysBeforeMarch_mono (y := y - 1) (m := m) (by omega)
      omega

theorem le_year_iff : y ≤ (ofDays n).year ↔ toDays ⟨y, 1, 1⟩ ≤ n := by
  rw [← Int.not_lt, year_lt_iff, Int.not_lt]

theorem year_mono (h : n ≤ m) : (ofDays n).year ≤ (ofDays m).year :=
  le_year_iff.2 (Int.le_trans (le_year_iff.1 (Int.le_refl _)) h)

end TrustAnchor.Date
