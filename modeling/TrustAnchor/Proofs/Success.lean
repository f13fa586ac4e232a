import TrustAnchor.Proofs.Clear
import TrustAnchor.Proofs.Steps

/-! Loops that succeed. Where nothing fails but writes that meet a pending conflict, an attempt that
fails has used one up, so a loop with more attempts than there are conflicts comes to a good end.
This is so whatever else is done in between, if only nobody else writes the object. -/

namespace TrustAnchor

/-- The delays after which `rounds` more attempts are made, from `delay` on, can all be computed,
whatever numbers are drawn. -/
def Schedule.Steady (s : Schedule) (U : Binary64 → Prop) : (rounds : Nat) → Duration → Prop
  | 0, _ => True
  | rounds + 1, delay => (∀ u, U u → ∃ pause, Schedule.pause delay u = .ok pause) ∧
    ∃ next, s.nextDelay delay = .ok next ∧ s.Steady U rounds next

private instance decidableOk {ε α : Type} {P : α → Prop} [DecidablePred P] :
    (x : Except ε α) → Decidable (∃ a, x = .ok a ∧ P a)
  | .ok a => decidable_of_iff (P a) ⟨fun h => ⟨a, rfl, h⟩, fun ⟨_, hb, h⟩ => Except.ok.inj hb ▸ h⟩
  | .error _ => isFalse nofun

/-- Whether a schedule is steady can be computed where only one number can be drawn. -/
instance Schedule.decidableSteady (s : Schedule) (u : Binary64) :
    (rounds : Nat) → (delay : Duration) → Decidable (s.Steady (· = u) rounds delay)
  | 0, _ => isTrue trivial
  | rounds + 1, delay =>
    have := Schedule.decidableSteady s u rounds
    decidable_of_iff
      ((∃ pause, Schedule.pause delay u = .ok pause ∧ True) ∧
        ∃ next, s.nextDelay delay = .ok next ∧ s.Steady (· = u) rounds next)
      (and_congr_left' (by simp))

namespace Script

variable {α β : Type} {U : Binary64 → Prop} {k : Kind} {name : String}
  {Q : α → Option k.Object → Nat → Prop} {p : Script α} {f : α → Script β}
  {x : Option k.Object} {n : Nat}

/-- Where nothing fails but for conflicts, and nobody else writes the object, the script comes to a
result as `Q` says. It starts with the object as given, and with no more conflicts than that. -/
def Leads (U : Binary64 → Prop) (k : Kind) (name : String)
    (Q : α → Option k.Object → Nat → Prop) : Script α → Option k.Object → Nat → Prop
  | .done a, x, n => Q a x n
  | .stop _, _, _ => False
  | .ask r next, x, n => (r.Idle ∨ r.On k name) ∧ ∀ ⦃w : World Cluster⦄, w.Clear U →
    w.object k name = x → w.pending k ≤ n → ∃ n', (w.after r).pending k ≤ n' ∧
      (next (w.answer r)).Leads U k name Q ((w.after r).object k name) n'

namespace Leads

theorem bind {Q' : β → Option k.Object → Nat → Prop} (H : p.Leads U k name Q x n)
    (K : ∀ a x n, Q a x n → (f a).Leads U k name Q' x n) : (p >>= f).Leads U k name Q' x n := by
  induction p generalizing x n with
  | done a => exact K a x n H
  | stop why => exact H.elim
  | ask r next ih =>
    refine ⟨H.1, fun w hclear hobject hpending => ?_⟩
    obtain ⟨n', hn', H⟩ := H.2 hclear hobject hpending
    exact ⟨n', hn', ih _ H⟩

/-- Idle requests leave everything as it is. -/
theorem idle {r : Request} {next : Except String r.Answer → Script α} (hr : r.Idle)
    (H : ∀ w : World Cluster, w.Clear U → (next (w.answer r)).Leads U k name Q x n) :
    (Script.ask r next).Leads U k name Q x n := by
  refine ⟨.inl hr, fun w hclear hobject hpending => ?_⟩
  refine ⟨n, (hclear.pending_after r).trans hpending, ?_⟩
  rw [hclear.object_after hr.not_on, hobject]
  exact H w hclear

theorem chance {f : Binary64 → Script α} (H : ∀ u, U u → (f u).Leads U k name Q x n) :
    (Script.request .chance >>= f).Leads U k name Q x n :=
  idle trivial fun _ hclear => H _ hclear.chance

theorem report {setback : Setback} {f : Unit → Script α} (H : (f ()).Leads U k name Q x n) :
    (Script.request (.report setback) >>= f).Leads U k name Q x n :=
  idle trivial fun _ _ => H

theorem sleep {d : Duration} {f : Unit → Script α} (H : (f ()).Leads U k name Q x n) :
    (Script.request (.sleep d) >>= f).Leads U k name Q x n :=
  idle trivial fun _ _ => H

end Leads

end Script

open Script (Leads)

/-- An attempt has come to a good end, or has failed for a conflict and left the object as it was. -/
def Advances {ε : Type} (conflict : ε → Bool) {α : Type} {k : Kind} (x : Option k.Object) (n : Nat) :
    Except ε α → Option k.Object → Nat → Prop
  | .ok _, _, _ => True
  | .error e, y, m => conflict e = true ∧ y = x ∧ m < n

namespace Amendment

variable {U : Binary64 → Prop} {k : Kind} {name : String} {β : Type} {A : Amendment k name β}
  {x : Option k.Object} {n : Nat}

theorem put_leads {y : k.Object} {b : β} (hname : Resource.anyName y = name)
    (hversion : ∀ z, x = some z → Resource.version y = Resource.version z) :
    (act x (.write y b)).run.Leads U k name (Advances Error.isConflict x n) x n := by
  have hconflict : (Error.api 409 "Conflict").isConflict = true := rfl
  cases x with
  | none =>
    refine ⟨.inr ⟨rfl, hname⟩, fun w hclear hobject hpending => ?_⟩
    subst hname
    rcases hclear.create hobject with ⟨z, hanswer⟩ | ⟨hanswer, hsame, hlt⟩
    · rw [hanswer]
      exact ⟨_, Nat.le_refl _, trivial⟩
    · rw [hanswer, hsame, hobject]
      exact ⟨_, Nat.le_refl _, hconflict, rfl, hlt.trans_le hpending⟩
  | some z =>
    refine ⟨.inr ⟨rfl, hname⟩, fun w hclear hobject hpending => ?_⟩
    subst hname
    rcases hclear.replace hobject (hversion z rfl) with ⟨z', hanswer⟩ | ⟨hanswer, hsame, hlt⟩
    · rw [hanswer]
      exact ⟨_, Nat.le_refl _, trivial⟩
    · rw [hanswer, hsame, hobject]
      exact ⟨_, Nat.le_refl _, hconflict, rfl, hlt.trans_le hpending⟩

/-- An attempt that finds nothing wrong advances. -/
theorem attempt_leads (hplan : ∀ e, A.plan x ≠ .finish (.error e)) :
    A.attempt.run.Leads U k name (Advances Error.isConflict x n) x n := by
  refine ⟨.inr ⟨rfl, rfl⟩, fun w hclear hobject hpending => ?_⟩
  obtain ⟨hanswer, hsame⟩ := hclear.read k name
  refine ⟨n, (hclear.pending_after _).trans hpending, ?_⟩
  rw [hanswer, hsame, hobject]
  show (act x (A.plan x)).run.Leads U k name _ x n
  cases hx : A.plan x with
  | finish result =>
    cases result with
    | ok b => exact trivial
    | error e => exact absurd hx (hplan e)
  | write y b =>
    refine put_leads ?_ fun z hz => ?_
    · cases x with
      | none => exact A.anyName hx
      | some z =>
        exact (Resource.anyName_of_metadata (A.metadata hx)).trans ((hclear.sound k).name hobject)
    · subst hz
      exact Resource.version_of_metadata (A.metadata hx)

end Amendment

namespace Retry

variable {U : Binary64 → Prop} {k : Kind} {name : String} {α ε : Type} {s : Schedule}
  {operation : String} {x : Option k.Object} {n rounds attempt horizon : Nat} {delay : Duration}

/-- A loop whose attempts advance comes to a good end before the conflicts have used up its
attempts. -/
theorem attempts_leads {again : ε → Bool} {body : Nat → Script (Except ε α)}
    (hbody : ∀ i m, (body i).Leads U k name (Advances again x m) x m)
    (hsteady : s.Steady U rounds delay) (hrounds : rounds + 1 + attempt = s.maxAttempts)
    (hn : n ≤ rounds) :
    (attempts s operation again body (rounds + 1) attempt delay).Leads U k name
      (fun result _ _ => ∃ a, result = .ok a) x n := by
  induction rounds generalizing n attempt delay with
  | zero =>
    refine (hbody attempt n).bind fun result y m hadvances => ?_
    cases result with
    | ok a => exact ⟨a, rfl⟩
    | error e =>
      obtain ⟨-, -, hlt⟩ := hadvances
      omega
  | succ rounds ih =>
    obtain ⟨hpause, next, hnext, hsteady⟩ := hsteady
    refine (hbody attempt n).bind fun result y m hadvances => ?_
    cases result with
    | ok a => exact ⟨a, rfl⟩
    | error e =>
      obtain ⟨hagain, rfl, hlt⟩ := hadvances
      dsimp only
      rw [hagain, if_neg (by decide), if_neg (by omega)]
      refine .chance fun u hu => ?_
      obtain ⟨pause, hpause⟩ := hpause u hu
      rw [hpause]
      refine .report (.sleep ?_)
      rw [hnext]
      exact ih hsteady (by omega) (by omega)

theorem onConflict_leads {body : Nat → Script (Except Error α)}
    (hbody : ∀ i m, (body i).Leads U k name (Advances Error.isConflict x m) x m)
    (hattempts : s.maxAttempts ≠ 0) (hsteady : s.Steady U (s.maxAttempts - 1) s.initialDelay)
    (hn : n < s.maxAttempts) : (onConflict horizon s operation body).Leads U k name
      (fun result _ _ => ∃ a, result = .ok a) x n := by
  have hrounds : Retry.rounds horizon s = s.maxAttempts - 1 + 1 := by
    rw [Retry.rounds, if_neg hattempts]
    omega
  rw [onConflict, Retry.when, hrounds]
  refine (attempts_leads hbody hsteady (by omega) (by omega)).bind fun result y m hgood => ?_
  obtain ⟨a, rfl⟩ := hgood
  exact ⟨a, rfl⟩

end Retry

namespace Rotation

variable {U : Binary64 → Prop} {horizon n : Nat} {name namespaceName : String} {a : Authority}
  {schedule : Schedule} {bundle : Bytes} {target : Target}

theorem persist_leads {x : Option Secret} (hn : n < schedule.maxAttempts)
    (hsteady : schedule.Steady U (schedule.maxAttempts - 1) schedule.initialDelay) :
    (persist horizon name namespaceName a schedule).run.Leads U .secret name
      (fun result _ _ => ∃ written, result = .ok written) x n := by
  have hplan : ∀ e, (storing name namespaceName a).plan x ≠ .finish (.error e) := by
    intro e h
    cases x with
    | none => cases h
    | some x =>
      simp only [storing, creation] at h
      split at h <;> cases h
  rw [persist_eq]
  exact Retry.onConflict_leads (fun _ _ => Amendment.attempt_leads hplan) (by omega) hsteady hn

theorem invalidateLeaf_leads {x : Option Secret} (hn : n < schedule.maxAttempts)
    (hsteady : schedule.Steady U (schedule.maxAttempts - 1) schedule.initialDelay) :
    (invalidateLeaf horizon name schedule).run.Leads U .secret name
      (fun result _ _ => ∃ change, result = .ok change) x n := by
  have hplan : ∀ e, (clearing name).plan x ≠ .finish (.error e) := by
    intro e h
    cases x with
    | none => cases h
    | some x =>
      simp only [clearing] at h
      split at h <;> cases h
  rw [invalidateLeaf_eq]
  refine (Retry.onConflict_leads (fun _ _ => Amendment.attempt_leads hplan) (by omega) hsteady
    hn).bind fun result _ _ hgood => ?_
  obtain ⟨change, rfl⟩ := hgood
  exact ⟨change, rfl⟩

/-- A target has to be there to be mended. -/
theorem sync_leads {x : Option WebhookConfiguration} (hx : x ≠ none)
    (hn : n < schedule.maxAttempts)
    (hsteady : schedule.Steady U (schedule.maxAttempts - 1) schedule.initialDelay) :
    (target.sync horizon bundle schedule).run.Leads U (.webhook target.kind) target.name
      (fun result _ _ => ∃ outcome, result = .ok outcome) x n := by
  have hplan : ∀ e, (target.syncing bundle).plan x ≠ .finish (.error e) := by
    intro e h
    cases x with
    | none => exact hx rfl
    | some config =>
      simp only [Target.syncing] at h
      split at h <;> cases h
  rw [Target.sync_eq]
  exact Retry.onConflict_leads (fun _ _ => Amendment.attempt_leads hplan) (by omega) hsteady hn

end Rotation

end TrustAnchor
