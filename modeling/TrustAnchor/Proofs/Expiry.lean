import TrustAnchor.Proofs.Issuance
import TrustAnchor.Proofs.Operations
import Mathlib.Order.Bounds.Defs

/-! How long an authority lasts, to the nanosecond. The window of a new one begins with the last whole
second and is exactly as long as was asked for, or else there is no new one. What is left of an
authority is exact at every point in time, and once nothing is left, nothing ever is. -/

namespace TrustAnchor

namespace Instant

variable {t u : Instant} {d : Duration}

/-- The last point in time that a clock in universal time can show. -/
def latest : Int := lastSecond * 1000000000 + 999999999

theorem localSeconds_le_iff (hutc : t.offset = 0) :
    t.localSeconds ≤ lastSecond ↔ t.nanos ≤ latest := by
  rw [localSeconds_of_utc hutc, unixSeconds, latest]
  omega

theorem after?_eq_none (hutc : t.offset = 0) (h : latest < t.nanos + d.nanos) :
    t.after? d = none := by
  refine if_neg fun hshown => ?_
  exact absurd ((localSeconds_le_iff (t := { t with nanos := t.nanos + d.nanos }) hutc).1 hshown)
    (not_le.2 h)

theorem nanos_of_after? (h : t.after? d = some u) : u.nanos = t.nanos + d.nanos := by
  dsimp only [after?] at h
  split at h
  · cases h
    rfl
  · cases h

theorem nanos_wholeSecond (t : Instant) :
    t.wholeSecond.nanos = t.nanos / 1000000000 * 1000000000 := rfl

/-- Rounding goes down, also before the start of 1970. -/
theorem isGreatest_wholeSecond (t : Instant) :
    IsGreatest {n : Int | 1000000000 ∣ n ∧ n ≤ t.nanos} t.wholeSecond.nanos := by
  rw [nanos_wholeSecond]
  refine ⟨⟨Int.dvd_mul_left .., by omega⟩, ?_⟩
  rintro n ⟨⟨seconds, rfl⟩, hn⟩
  omega

theorem nanos_eq_add_subsecond (t : Instant) : t.nanos = t.wholeSecond.nanos + t.subsecond := by
  rw [nanos_wholeSecond, subsecond]
  omega

theorem subsecond_lt (t : Instant) : t.subsecond < 1000000000 := by
  rw [subsecond]
  omega

end Instant

/-! ## The window of a new authority -/

namespace Issuer

variable {i : Issuer} {key : Signature.P256.PrivateKey} {now start stop : Instant}
  {e : AuthorityError} {a : Authority}

theorem window_of_long (h : Nat.pow 2 63 ≤ i.validity.seconds) :
    i.window now = .error (.generation .validityRange) := if_pos h

theorem window_of_late (hrange : i.validity.seconds < Nat.pow 2 63) (hutc : now.offset = 0)
    (hlate : Instant.latest < now.wholeSecond.nanos + i.validity.nanos) :
    i.window now =
      .error (.generation (.windowOverflow i.validity.seconds now.wholeSecond)) := by
  rw [window, if_neg (not_le.2 hrange),
    Instant.after?_eq_none (t := now.wholeSecond) hutc hlate]

theorem window_exact (h : i.window now = .ok (start, stop)) :
    start = now.wholeSecond ∧ stop.nanos = start.nanos + i.validity.nanos := by
  rw [window] at h
  split at h
  · cases h
  · split at h
    · cases h
    · rename_i hafter
      cases h
      exact ⟨rfl, Instant.nanos_of_after? hafter⟩

/-- Without a window nothing is signed, so nothing can break off. -/
theorem issue_of_refused (h : i.window now = .error e) : i.issue key now = .ok (.error e) := by
  rw [issue, h]

theorem window_of_issued (h : i.issue key now = .ok (.ok a)) :
    i.window now = .ok (a.notBefore, a.notAfter) := by
  rw [issue] at h
  split at h
  · cases h
  · rename_i notBefore notAfter hwindow
    obtain ⟨encoded, -, h⟩ := exists_of_bind_eq_ok h
    cases h
    exact hwindow

/-- The window of an authority that was issued. -/
theorem issued_exact (h : i.issue key now = .ok (.ok a)) :
    a.notBefore = now.wholeSecond ∧ a.notAfter.nanos = a.notBefore.nanos + i.validity.nanos :=
  window_exact (window_of_issued h)

end Issuer

/-! ## What is left -/

theorem Authority.nanos_of_remaining {a : Authority} {t : Instant} {d : Duration}
    (h : a.remaining t = .ok d) : (d.nanos : Int) = a.notAfter.nanos - t.nanos := by
  rcases lt_or_ge t.nanos a.notAfter.nanos with hlt | hle
  · rw [remaining_of_lt hlt] at h
    cases h
    exact Int.toNat_of_nonneg (by omega)
  · rw [remaining, Instant.since?, if_neg (not_lt.2 hle)] at h
    cases h

namespace Decision

variable {a b b₁ b₂ : Authority} {t t₁ t₂ : Instant} {d d₁ d₂ : Duration}

theorem at_of_lt (h : t.nanos < a.notAfter.nanos) :
    ∃ d, Decision.at (some a) t = .keep a d ∧ (d.nanos : Int) = a.notAfter.nanos - t.nanos :=
  have hremaining := Authority.remaining_of_lt h
  ⟨_, at_of_valid hremaining, Authority.nanos_of_remaining hremaining⟩

theorem at_of_le (h : a.notAfter.nanos ≤ t.nanos) :
    Decision.at (some a) t = .regenerate .expired := by
  rw [Decision.at, Authority.remaining, Instant.since?, if_neg (not_lt.2 h)]

/-- The authority itself is kept, and what is left of it is exact. -/
theorem nanos_of_keep (h : Decision.at (some a) t = .keep b d) :
    b = a ∧ (d.nanos : Int) = a.notAfter.nanos - t.nanos := by
  obtain ⟨hfound, hremaining⟩ := at_keep h
  cases hfound
  exact ⟨rfl, Authority.nanos_of_remaining hremaining⟩

/-- What is left gets less just as fast as time passes. -/
theorem keep_sub_keep (h₁ : Decision.at (some a) t₁ = .keep b₁ d₁)
    (h₂ : Decision.at (some a) t₂ = .keep b₂ d₂) :
    (d₁.nanos : Int) - d₂.nanos = t₂.nanos - t₁.nanos := by
  have hd₁ := (nanos_of_keep h₁).2
  have hd₂ := (nanos_of_keep h₂).2
  omega

theorem expired_later (ht : t₁.nanos ≤ t₂.nanos)
    (h : Decision.at (some a) t₁ = .regenerate .expired) :
    Decision.at (some a) t₂ = .regenerate .expired :=
  at_of_le (le_trans (expired_of_regenerate h) ht)

end Decision

/-- An authority is made for exactly the time that was asked for, from the last whole second on, and
is kept for exactly that long. A time that does not fit, or that ends later than any time that can be
shown, is refused. -/
theorem Issuer.issue_exact (i : Issuer) (key : Signature.P256.PrivateKey) (now : Instant)
    (hutc : now.offset = 0) :
    (Nat.pow 2 63 ≤ i.validity.seconds →
      i.issue key now = .ok (.error (.generation .validityRange))) ∧
    (i.validity.seconds < Nat.pow 2 63 →
      Instant.latest < now.wholeSecond.nanos + i.validity.nanos →
      i.issue key now = .ok
        (.error (.generation (.windowOverflow i.validity.seconds now.wholeSecond)))) ∧
    (∀ a, i.issue key now = .ok (.ok a) →
      IsGreatest {n : Int | 1000000000 ∣ n ∧ n ≤ now.nanos} a.notBefore.nanos ∧
      a.notAfter.nanos = a.notBefore.nanos + i.validity.nanos) ∧
    (∀ (a : Authority) (t : Instant),
      (t.nanos < a.notAfter.nanos → ∃ d, Decision.at (some a) t = .keep a d ∧
        (d.nanos : Int) = a.notAfter.nanos - t.nanos) ∧
      (a.notAfter.nanos ≤ t.nanos → Decision.at (some a) t = .regenerate .expired)) ∧
    ∀ (a : Authority) (t₁ t₂ : Instant), t₁.nanos ≤ t₂.nanos →
      (∀ b₁ b₂ d₁ d₂, Decision.at (some a) t₁ = .keep b₁ d₁ →
        Decision.at (some a) t₂ = .keep b₂ d₂ →
        (d₁.nanos : Int) - d₂.nanos = t₂.nanos - t₁.nanos) ∧
      (Decision.at (some a) t₁ = .regenerate .expired →
        Decision.at (some a) t₂ = .regenerate .expired) := by
  refine ⟨fun hlong => issue_of_refused (window_of_long hlong),
    fun hrange hlate => issue_of_refused (window_of_late hrange hutc hlate), fun a h => ?_,
    fun a t => ⟨Decision.at_of_lt, Decision.at_of_le⟩,
    fun a t₁ t₂ ht => ⟨fun b₁ b₂ d₁ d₂ => Decision.keep_sub_keep, Decision.expired_later ht⟩⟩
  obtain ⟨hstart, hstop⟩ := issued_exact h
  refine ⟨?_, hstop⟩
  rw [hstart]
  exact now.isGreatest_wholeSecond

/-- Half a second before 1970 an authority is made that begins a second before 1970, and its time runs
out in a fraction of a second. In the last second of all none is made for another second. -/
theorem Issuer.issue_exact_before_1970 : ∃ a,
    issue ⟨"ca", "org", ⟨90250000000⟩⟩ (.ofNat 1) ⟨-500000000, 0⟩ = .ok (.ok a) ∧
    a.notBefore.nanos = -1000000000 ∧ a.notAfter.nanos = 89250000000 ∧
    Decision.at (some a) ⟨89249999999, 0⟩ = .keep a ⟨1⟩ ∧
    Decision.at (some a) ⟨89250000000, 0⟩ = .regenerate .expired ∧
    issue ⟨"ca", "org", .ofSeconds 1⟩ (.ofNat 1) ⟨Instant.latest, 0⟩ =
      .ok (.error (.generation (.windowOverflow 1 (Instant.wholeSecond ⟨Instant.latest, 0⟩)))) := by
  let i : Issuer := ⟨"ca", "org", ⟨90250000000⟩⟩
  let now : Instant := ⟨-500000000, 0⟩
  obtain ⟨a, hissue, hstart, -⟩ : ∃ a, i.issue (.ofNat 1) now = .ok (.ok a) ∧
      a.notBefore = now.wholeSecond ∧ a.remaining a.notBefore = .ok i.validity :=
    issue_ok rfl (by decide) (by decide) (by decide) (by decide) _
  obtain ⟨-, -, hexact, hdecide, -⟩ := issue_exact i (.ofNat 1) now rfl
  have hbefore : a.notBefore.nanos = -1000000000 := by
    rw [hstart]
    rfl
  have hafter : a.notAfter.nanos = 89250000000 := by
    rw [(hexact a hissue).2, hbefore]
    decide
  refine ⟨a, hissue, hbefore, hafter, ?_, (hdecide a _).2 (le_of_eq hafter),
    (issue_exact ⟨"ca", "org", .ofSeconds 1⟩ (.ofNat 1) ⟨Instant.latest, 0⟩ rfl).2.1 (by decide)
      (by decide)⟩
  obtain ⟨d, hkeep, hd⟩ := (hdecide a ⟨89249999999, 0⟩).1 (by rw [hafter]; decide)
  rw [hafter] at hd
  obtain rfl : d = ⟨1⟩ := congrArg Duration.mk (Int.ofNat.inj hd)
  exact hkeep

end TrustAnchor
