import TrustAnchor.Proofs.Ledger
import TrustAnchor.Proofs.Trust

/-! How the loops of a pass come to a good end: with the first of their calls that shows the object
as it should be. Only this last call can be a write, and the result says whether it was. -/

namespace TrustAnchor

open Script (Attempt)

theorem Request.Idle.not_shows {r : Request} {k : Kind} {φ : Option k.Object → Prop}
    {answer : Except String r.Answer} (h : r.Idle) : ¬ r.Shows k φ answer := by
  rintro ⟨⟩
  exact h

theorem Request.Shows.on {r : Request} {k : Kind} {name : String} {φ : Option k.Object → Prop}
    {answer : Except String r.Answer} (H : r.Shows k φ answer) (h : r.Idle ∨ r.On k name) :
    r.On k name :=
  h.resolve_left fun hidle => hidle.not_shows H

theorem Request.Idle.not_wrote {r : Request} {answer : Except String r.Answer} (h : r.Idle) :
    ¬ r.Wrote answer := by
  cases r with
  | store => exact h.elim
  | _ => exact id

/-- Neither secrets nor authorities take part in the request. -/
def Request.Public : Request → Prop
  | .store .secret _ | .generate _ => False
  | .store (.webhook _) _ | .now | .chance | .report _ | .sleep _ => True

theorem Request.Idle.isPublic {r : Request} (h : r.Idle) : r.Public := by
  cases r with
  | store | now | generate => exact h.elim
  | chance | report | sleep => trivial

theorem Request.On.isPublic {r : Request} {kind : WebhookKind} {name : String}
    (h : r.On (.webhook kind) name) : r.Public := by
  cases r with
  | store k c =>
    obtain ⟨rfl, -⟩ := h
    trivial
  | _ => exact h.elim

theorem Request.Public.not_generates {r : Request} (h : r.Public) : ¬ r.Generates := by
  cases r with
  | generate start => exact h.elim
  | _ => exact id

namespace Script

variable {α β ε δ : Type}

/-- The script is about one object. It ends well exactly with the first call that shows the object
as it should be; `wrote` tells the results of those that have written it. -/
def Concludes (k : Kind) (name : String) (φ : Option k.Object → Prop) (wrote : α → Prop) :
    Script (Except ε α) → Prop
  | .done (.ok _) => False
  | .done (.error _) | .stop _ => True
  | .ask r next => (r.Idle ∨ r.On k name) ∧ ∀ answer, r.Possible answer →
    (r.Shows k φ answer → ∃ a, (wrote a ↔ r.Wrote answer) ∧ next answer = .done (.ok a)) ∧
      (¬ r.Shows k φ answer → ¬ r.Wrote answer ∧ (next answer).Concludes k name φ wrote)

variable {k : Kind} {name : String} {φ : Option k.Object → Prop} {wrote : α → Prop}
  {wrote' : β → Prop} {p : Script (Except ε α)} {f : Except ε α → Script (Except δ β)} {g : α → β}

namespace Concludes

theorem bind (H : p.Concludes k name φ wrote) (hok : ∀ a, f (.ok a) = .done (.ok (g a)))
    (hwrote : ∀ a, wrote' (g a) ↔ wrote a)
    (hfail : ∀ e, (f (.error e)).Concludes k name φ wrote') :
    (p >>= f).Concludes k name φ wrote' := by
  induction p with
  | done result =>
    cases result with
    | ok a => exact H.elim
    | error e => exact hfail e
  | stop why => trivial
  | ask r next ih =>
    refine ⟨H.1, fun answer h => ⟨fun hshows => ?_, fun hshows => ?_⟩⟩
    · obtain ⟨a, ha, hnext⟩ := (H.2 answer h).1 hshows
      refine ⟨g a, (hwrote a).trans ha, ?_⟩
      show next answer >>= f = _
      rw [hnext]
      exact hok a
    · obtain ⟨hquiet, hnext⟩ := (H.2 answer h).2 hshows
      exact ⟨hquiet, ih answer hnext⟩

/-- All requests are idle or about the object. -/
theorem asks (H : p.Concludes k name φ wrote) : p.Asks fun r => r.Idle ∨ r.On k name := by
  induction p with
  | done | stop => trivial
  | ask r next ih =>
    refine ⟨H.1, fun answer h => ?_⟩
    by_cases hshows : r.Shows k φ answer
    · obtain ⟨a, -, hnext⟩ := (H.2 answer h).1 hshows
      rw [hnext]
      trivial
    · exact ih answer ((H.2 answer h).2 hshows).2

/-- A run that does not end well has written nothing. -/
theorem written_of_fails {ws : List (Kind × String)} (H : p.Concludes k name φ wrote) :
    p.KeepsFailing Scene.Outside fun s => s.past.written = ws := by
  intro s result t hs hrun hresult
  induction p generalizing s with
  | done | stop => exact Scene.written_stable hrun.2 hs
  | ask r next ih =>
    obtain ⟨m, answer, stores, hm, hanswer, hrun⟩ := hrun
    by_cases hshows : r.Shows k φ answer
    · obtain ⟨a, -, hnext⟩ := (H.2 answer hanswer.possible).1 hshows
      rw [hnext] at hrun
      exact absurd ⟨a, hrun.1⟩ hresult
    · obtain ⟨hquiet, hconcludes⟩ := (H.2 answer hanswer.possible).2 hshows
      refine ih answer hconcludes ?_ hrun
      exact (congrArg (· ++ _) (Request.landed_of_not_wrote hquiet)).trans
        (Scene.written_stable hm hs)

/-- A run that ends well has written as its result says. -/
theorem written_of_ok {a : α} {s t : Scene} {ws : List (Kind × String)}
    (H : p.Concludes k name φ wrote) (hs : s.past.written = ws)
    (hrun : p.Runs Scene.Outside s (.ok (.ok a)) t) :
    wrote a ∧ t.past.written = (k, name) :: ws ∨ ¬ wrote a ∧ t.past.written = ws := by
  induction p generalizing s with
  | done =>
    cases hrun.1
    exact H.elim
  | stop => cases hrun.1
  | ask r next ih =>
    obtain ⟨m, answer, stores, hm, hanswer, hrun⟩ := hrun
    have hm' := Scene.written_stable hm hs
    by_cases hshows : r.Shows k φ answer
    · obtain ⟨b, hwrote, hnext⟩ := (H.2 answer hanswer.possible).1 hshows
      rw [hnext] at hrun
      obtain ⟨hb, hout⟩ := hrun
      cases hb
      by_cases h : wrote a
      · refine .inl ⟨h, Scene.written_stable hout ?_⟩
        exact congrArg₂ (· ++ ·) (Request.landed_of_wrote (hshows.on H.1) (hwrote.1 h)) hm'
      · refine .inr ⟨h, Scene.written_stable hout ?_⟩
        exact congrArg₂ (· ++ ·) (Request.landed_of_not_wrote (mt hwrote.2 h)) hm'
    · obtain ⟨hquiet, hconcludes⟩ := (H.2 answer hanswer.possible).2 hshows
      refine ih answer hconcludes ?_ hrun
      exact congrArg₂ (· ++ ·) (Request.landed_of_not_wrote hquiet) hm'

end Concludes

end Script

namespace Retry

open Script

variable {α ε : Type} {k : Kind} {name : String} {φ : Option k.Object → Prop} {wrote : α → Prop}
  {s : Schedule} {operation : String} {horizon rounds attempt : Nat} {delay : Duration}

theorem attempts_concludes {again : ε → Bool} {body : Nat → Script (Except ε α)}
    (H : ∀ n, (body n).Concludes k name φ wrote) :
    (attempts s operation again body rounds attempt delay).Concludes k name φ wrote := by
  refine attempts_induction (C := fun p => p.Concludes k name φ wrote) (fun _ => trivial)
    (fun _ => trivial) (fun hr hnext => ?_) fun {n f} hok hfail => ?_
  · exact ⟨.inl hr, fun answer _ => ⟨fun hshows => absurd hshows hr.not_shows,
      fun _ => ⟨hr.not_wrote, hnext answer⟩⟩⟩
  · exact (H n).bind hok (fun _ => .rfl) hfail

theorem onConflict_concludes {body : Nat → Script (Except Error α)}
    (H : ∀ n, (body n).Concludes k name φ wrote) :
    (onConflict horizon s operation body).Concludes k name φ wrote :=
  (attempts_concludes H).bind (fun _ => rfl) (fun _ => .rfl) fun _ => trivial

end Retry

namespace Amendment

open Script

variable {k : Kind} {name : String} {β : Type} (A : Amendment k name β)

/-- A plan for objects that are to be as `φ` says: those that are need not be written, all others
have to be, or cannot be mended. -/
structure For (φ : Option k.Object → Prop) (wrote : β → Prop) : Prop where
  finish {found b} : A.plan found = .finish (.ok b) → φ found ∧ ¬ wrote b
  fail {found e} : A.plan found = .finish (.error e) → ¬ φ found
  write {found x b} : A.plan found = .write x b →
    ¬ φ found ∧ wrote b ∧ ∀ n, φ (some (Resource.withVersion x n))

variable {A} {φ : Option k.Object → Prop} {wrote : β → Prop}

private theorem put_concludes {found : Option k.Object} {x : k.Object} {b : β}
    (hx : Resource.anyName x = name) (hb : wrote b)
    (hφ : ∀ n, φ (some (Resource.withVersion x n))) :
    (act found (.write x b)).run.Concludes k name φ wrote := by
  cases found with
  | none =>
    refine ⟨.inr ⟨rfl, hx⟩, fun answer h => ?_⟩
    match answer with
    | .error text => exact ⟨nofun, fun _ => ⟨id, trivial⟩⟩
    | .ok (.error e) => exact ⟨nofun, fun _ => ⟨id, trivial⟩⟩
    | .ok (.ok y) =>
      obtain ⟨n, rfl⟩ := h
      exact ⟨fun _ => ⟨b, iff_of_true hb trivial, rfl⟩,
        fun hshows => absurd (.intro rfl (hφ n)) hshows⟩
  | some z =>
    refine ⟨.inr ⟨rfl, hx⟩, fun answer h => ?_⟩
    match answer with
    | .error text => exact ⟨nofun, fun _ => ⟨id, trivial⟩⟩
    | .ok (.error e) => exact ⟨nofun, fun _ => ⟨id, trivial⟩⟩
    | .ok (.ok y) =>
      obtain ⟨n, rfl⟩ := h
      exact ⟨fun _ => ⟨b, iff_of_true hb trivial, rfl⟩,
        fun hshows => absurd (.intro rfl (hφ n)) hshows⟩

theorem For.concludes (H : A.For φ wrote) : A.attempt.run.Concludes k name φ wrote := by
  refine ⟨.inr ⟨rfl, rfl⟩, fun answer hpossible => ?_⟩
  match answer with
  | .error text => exact ⟨nofun, fun _ => ⟨id, trivial⟩⟩
  | .ok (.error e) => exact ⟨nofun, fun _ => ⟨id, trivial⟩⟩
  | .ok (.ok found) =>
    have hshows : (Request.store k (.get name)).Shows k φ (.ok (.ok found)) ↔ φ found := by
      refine ⟨fun h => ?_, fun h => .intro rfl h⟩
      cases h with
      | intro hshown hφ =>
        cases hshown
        exact hφ
    rw [hshows]
    show (_ → ∃ a, _ ∧ (act found (A.plan found)).run = _) ∧
      (_ → _ ∧ (act found (A.plan found)).run.Concludes k name φ wrote)
    cases hplan : A.plan found with
    | finish result =>
      cases result with
      | ok b =>
        obtain ⟨hφ, hb⟩ := H.finish hplan
        exact ⟨fun _ => ⟨b, iff_of_false hb id, rfl⟩, fun h => absurd hφ h⟩
      | error e => exact ⟨fun h => absurd h (H.fail hplan), fun _ => ⟨id, trivial⟩⟩
    | write x b =>
      obtain ⟨hφ, hb, hx⟩ := H.write hplan
      have hname := A.anyName_of_possible hplan hpossible
      exact ⟨fun h => absurd h hφ, fun _ => ⟨id, put_concludes hname hb hx⟩⟩

end Amendment

namespace Rotation

variable {horizon : Nat} {name namespaceName : String} {a : Authority} {schedule : Schedule}
  {bundle : Bytes}

theorem stores_iff {x : Secret} : Secret.Stores a (some x) ↔ x.holding a = x := by
  rw [Secret.holding_eq_self_iff_data]
  constructor
  · rintro ⟨y, hy, h⟩
    cases hy
    exact h
  · exact fun h => ⟨x, rfl, h⟩

theorem storing_for : (storing name namespaceName a).For (Secret.Stores a) (· ≠ .unchanged) where
  finish h := by
    obtain ⟨x, rfl, hsame, rfl⟩ := storing_finish h
    exact ⟨stores_iff.2 hsame, fun h => h rfl⟩
  fail {found e} h := by
    cases found with
    | none => cases h
    | some x =>
      simp only [storing, creation] at h
      split at h <;> cases h
  write h := by
    obtain ⟨hstores, ⟨rfl, rfl⟩ | ⟨y, rfl, hother, rfl⟩⟩ := storing_write h
    · refine ⟨?_, by decide, hstores⟩
      rintro ⟨_, h, -⟩
      cases h
    · exact ⟨fun h => hother (stores_iff.1 h), by decide, hstores⟩

theorem clearing_for : (clearing name).For Secret.Blank (· = .cleared) where
  finish {found change} h := by
    refine ⟨clearing_finish h, ?_⟩
    cases found with
    | none =>
      cases h
      decide
    | some x =>
      simp only [clearing] at h
      split at h
      · cases h
      · cases h
        decide
  fail {found e} h := by
    cases found with
    | none => cases h
    | some x =>
      simp only [clearing] at h
      split at h <;> cases h
  write {found x change} h := by
    refine ⟨?_, ?_, clearing_write h⟩ <;> cases found with
    | none => cases h
    | some y =>
      simp only [clearing] at h
      split at h
      · rename_i hcontent
        cases h
        first
        | rfl
        | exact fun hblank => Bool.noConfusion ((hblank y rfl).symm.trans hcontent)
      · cases h

end Rotation

open WebhookConfiguration in
theorem Target.syncing_for {target : Target} {bundle : Bytes} :
    (target.syncing bundle).For (Trusts bundle) (· = .updated) where
  finish {found outcome} h := by
    cases found with
    | none => cases h
    | some config =>
      simp only [syncing] at h
      split at h
      · cases h
      · rename_i hchanged
        cases h
        refine ⟨⟨config, rfl, ?_⟩, by decide⟩
        exact inSync_iff.1 (inSync_of_unchanged (Bool.eq_false_iff.2 hchanged))
  fail {found e} h := by
    cases found with
    | none =>
      rintro ⟨_, hnone, -⟩
      cases hnone
    | some config =>
      simp only [syncing] at h
      split at h <;> cases h
  write {found x outcome} h := by
    cases found with
    | none => cases h
    | some config =>
      simp only [syncing] at h
      split at h
      · rename_i hchanged
        cases h
        refine ⟨?_, rfl, fun _ => ⟨_, rfl, inSync_iff.1 inSync_inject⟩⟩
        rintro ⟨_, hsome, htrusts⟩
        cases hsome
        exact absurd hchanged (Bool.eq_false_iff.1 (unchanged_of_inSync htrusts))
      · cases h

namespace Rotation

variable {horizon : Nat} {name namespaceName : String} {a : Authority} {schedule : Schedule}
  {bundle : Bytes} {target : Target} {targets : List Target}

theorem persist_concludes : (persist horizon name namespaceName a schedule).run.Concludes .secret
    name (Secret.Stores a) (· ≠ .unchanged) := by
  rw [persist_eq]
  exact Retry.onConflict_concludes fun _ => storing_for.concludes

theorem invalidateLeaf_concludes : (invalidateLeaf horizon name schedule).run.Concludes .secret
    name Secret.Blank (· = .cleared) := by
  rw [invalidateLeaf_eq]
  exact (Retry.onConflict_concludes fun _ => clearing_for.concludes).bind (fun _ => rfl)
    (fun _ => .rfl) fun _ => trivial

theorem sync_concludes : (target.sync horizon bundle schedule).run.Concludes (.webhook target.kind)
    target.name (WebhookConfiguration.Trusts bundle) (· = .updated) := by
  rw [Target.sync_eq]
  exact Retry.onConflict_concludes fun _ => target.syncing_for.concludes

/-- What is done to the targets has nothing to do with secrets. -/
theorem propagate_public :
    (propagate horizon targets bundle schedule).run.Asks Request.Public := by
  refine (Script.Asks.together fun p hp => ?_).bind fun _ => trivial
  obtain ⟨target, -, rfl⟩ := List.mem_map.1 hp
  exact sync_concludes.asks.mono fun _ h => h.elim Request.Idle.isPublic Request.On.isPublic

end Rotation

end TrustAnchor
