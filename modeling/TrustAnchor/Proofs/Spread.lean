import TrustAnchor.Proofs.Conclusion

/-! What a propagation has written by the time it ends, in whatever order its scripts take their
turns and however it ends. Each script writes its target at most once, and a target that is written
then carries the bundle. -/

namespace TrustAnchor

open Script (Runs Steps ofResult)

/-- The object that a target is. -/
def Target.object (t : Target) : Kind × String := (.webhook t.kind, t.name)

/-- A target is not a secret, whatever its name. -/
theorem Target.not_secret {t : Target} {name : String} :
    ¬ (Kind.webhook t.kind = .secret ∧ t.name = name) := by
  rintro ⟨h, -⟩
  cases h

/-- If the request was a write, the configuration that it wrote carries the bundle. -/
def Request.Mends (bundle : Bytes) (r : Request) (answer : Except String r.Answer) : Prop :=
  r.Wrote answer → ∃ k, r.Shows (.webhook k) (WebhookConfiguration.Trusts bundle) answer

namespace Rotation

/-- The script has come to a good end, and has written its target. -/
def hasUpdated : Script (Except Error SyncOutcome) → Bool
  | .done (.ok .updated) => true
  | _ => false

/-- A script on its way has not come to an end. -/
theorem hasUpdated_of_concludes {k : Kind} {name : String} {φ : Option k.Object → Prop}
    {wrote : SyncOutcome → Prop} {p : Script (Except Error SyncOutcome)}
    (H : p.Concludes k name φ wrote) : hasUpdated p = false := by
  cases p with
  | done result =>
    cases result with
    | ok outcome => exact H.elim
    | error e => rfl
  | stop | ask => rfl

/-- The targets that their scripts have written. -/
def updatedBy (targets : List Target) (ps : List (Script (Except Error SyncOutcome))) :
    List Target :=
  ((targets.zip ps).filter fun entry => hasUpdated entry.2).map Prod.fst

section UpdatedBy

variable {targets : List Target} {ps : List (Script (Except Error SyncOutcome))}
  {target : Target} {p q : Script (Except Error SyncOutcome)} {i : Nat}

theorem updatedBy_cons : updatedBy (target :: targets) (p :: ps) =
    if hasUpdated p then target :: updatedBy targets ps else updatedBy targets ps := by
  cases h : hasUpdated p <;> simp [updatedBy, h]

theorem updatedBy_sublist (h : targets.length ≤ ps.length) :
    (updatedBy targets ps).Sublist targets := by
  have hsub : (updatedBy targets ps).Sublist ((targets.zip ps).map Prod.fst) :=
    List.filter_sublist.map _
  rwa [List.map_fst_zip h] at hsub

/-- One more script may have written its target. -/
theorem updatedBy_set (htarget : targets[i]? = some target) (hp : ps[i]? = some p)
    (hopen : hasUpdated p = false) : (updatedBy targets (ps.set i q)).Perm
      (if hasUpdated q then target :: updatedBy targets ps else updatedBy targets ps) := by
  induction targets generalizing ps i with
  | nil => cases htarget
  | cons head targets ih =>
    cases ps with
    | nil => cases hp
    | cons p' ps =>
      cases i with
      | zero =>
        cases htarget
        cases hp
        rw [List.set_cons_zero, updatedBy_cons, updatedBy_cons, hopen]
        exact .refl _
      | succ i =>
        have hrest := ih htarget hp
        rw [List.set_cons_succ, updatedBy_cons, updatedBy_cons]
        cases hasUpdated p' with
        | false => exact hrest
        | true =>
          refine (hrest.cons head).trans ?_
          cases hasUpdated q with
          | false => exact .refl _
          | true => exact .swap ..

theorem updatedBy_done (outcomes : List TargetOutcome) :
    updatedBy (outcomes.map (·.target)) (outcomes.map fun o => .done (.ok o.outcome)) =
      (outcomes.filter (·.outcome = .updated)).map (·.target) := by
  induction outcomes with
  | nil => rfl
  | cons o outcomes ih =>
    rw [List.map_cons, List.map_cons, updatedBy_cons, ih]
    obtain ⟨target, outcome⟩ := o
    cases outcome <;> rfl

end UpdatedBy

/-- Scripts on the way, one for each target: those that have come to a good end are accounted for
in what was written, and all others go on as they should. -/
structure Spreading (bundle : Bytes) (targets : List Target)
    (ps : List (Script (Except Error SyncOutcome))) (s : Scene) : Prop where
  length_eq : ps.length = targets.length
  scripts {i : Nat} {target : Target} {p : Script (Except Error SyncOutcome)} :
    targets[i]? = some target → ps[i]? = some p →
      (∃ outcome, p = .done (.ok outcome)) ∨ p.Concludes (.webhook target.kind) target.name
        (WebhookConfiguration.Trusts bundle) (· = .updated)
  written : s.past.written.Perm ((updatedBy targets ps).map Target.object)
  mends : s.past.Every (Request.Mends bundle)

namespace Spreading

variable {bundle : Bytes} {targets : List Target} {ps qs : List (Script (Except Error SyncOutcome))}
  {s t : Scene} {i : Nat} {r : Request}
  {next : Except String r.Answer → Script (Except Error SyncOutcome)}
  {answer : Except String r.Answer} {stores : Stores}

theorem outside (H : Spreading bundle targets ps s) (hout : Scene.Outside s t) :
    Spreading bundle targets ps t where
  length_eq := H.length_eq
  scripts := H.scripts
  written := by
    rw [Scene.written_stable hout rfl]
    exact H.written
  mends := Scene.every_stable hout H.mends

theorem step (H : Spreading bundle targets ps s) (hp : ps[i]? = some (.ask r next))
    (hanswer : s.Answers r answer stores) :
    Spreading bundle targets (ps.set i (next answer)) (s.after hanswer) := by
  have hi : i < targets.length := by
    rw [← H.length_eq]
    exact (List.getElem?_eq_some_iff.1 hp).1
  have htarget : targets[i]? = some targets[i] := List.getElem?_eq_getElem hi
  obtain hdone | hconcludes := H.scripts htarget hp
  · obtain ⟨outcome, h⟩ := hdone
    cases h
  obtain ⟨hends, hgoes⟩ := hconcludes.2 answer hanswer.possible
  -- What the next script is, and what the request has written, is all that has to be known.
  have of_next (hscript : (∃ outcome, next answer = .done (.ok outcome)) ∨
        (next answer).Concludes (.webhook targets[i].kind) targets[i].name
          (WebhookConfiguration.Trusts bundle) (· = .updated))
      (hlanded : r.landed answer = if hasUpdated (next answer) then [targets[i].object] else [])
      (hmends : r.Mends bundle answer) :
      Spreading bundle targets (ps.set i (next answer)) (s.after hanswer) := by
    refine ⟨?_, fun {j other q} hother hq => ?_, ?_, History.every_request.2 ⟨hmends, H.mends⟩⟩
    · rw [List.length_set, H.length_eq]
    · by_cases hij : i = j
      · subst hij
        rw [List.getElem?_set_self (List.getElem?_eq_some_iff.1 hp).1] at hq
        cases htarget.symm.trans hother
        cases hq
        exact hscript
      · rw [List.getElem?_set_ne hij] at hq
        exact H.scripts hother hq
    · have hset := (updatedBy_set (q := next answer) htarget hp rfl).map Target.object
      refine List.Perm.trans ?_ hset.symm
      show (r.landed answer ++ s.past.written).Perm _
      rw [hlanded]
      cases hasUpdated (next answer) with
      | false => exact H.written
      | true => exact H.written.cons _
  by_cases hshows : r.Shows (.webhook targets[i].kind) (WebhookConfiguration.Trusts bundle) answer
  · obtain ⟨outcome, hwrote, hnext⟩ := hends hshows
    refine of_next (.inl ⟨outcome, hnext⟩) ?_ fun _ => ⟨_, hshows⟩
    rw [hnext]
    cases outcome with
    | updated => exact Request.landed_of_wrote (hshows.on hconcludes.1) (hwrote.1 rfl)
    | unchanged => exact Request.landed_of_not_wrote fun h => nomatch hwrote.2 h
  · obtain ⟨hquiet, hrest⟩ := hgoes hshows
    refine of_next (.inr hrest) ?_ fun hwrote => absurd hwrote hquiet
    rw [hasUpdated_of_concludes hrest]
    exact Request.landed_of_not_wrote hquiet

theorem steps (H : Spreading bundle targets ps s) (hsteps : Steps Scene.Outside ps s qs t) :
    Spreading bundle targets qs t := by
  induction hsteps with
  | rest hout => exact H.outside hout
  | step hp hout hanswer _ ih => exact ih ((H.outside hout).step hp hanswer)

end Spreading

variable {horizon : Nat} {schedule : Schedule} {bundle : Bytes} {targets : List Target}
  {s t : Scene}

theorem spreading_start (hwritten : s.past.written = [])
    (hmends : s.past.Every (Request.Mends bundle)) :
    Spreading bundle targets (targets.map fun t => (t.sync horizon bundle schedule).run) s where
  length_eq := List.length_map _
  scripts {i target p} htarget hp := by
    rw [List.getElem?_map, htarget] at hp
    cases hp
    exact .inr sync_concludes
  written := by
    have hnone : updatedBy targets (targets.map fun t => (t.sync horizon bundle schedule).run) =
        [] := by
      induction targets with
      | nil => rfl
      | cons target targets ih =>
        rw [List.map_cons, updatedBy_cons, ih]
        rw [hasUpdated_of_concludes sync_concludes]
        rfl
    rw [hwritten, hnone]
    exact .refl _
  mends := hmends

theorem eq_of_joined {answers : List (Except String (Except Error SyncOutcome))}
    {outcomes : List SyncOutcome} (h : answers.map joined = outcomes.map .ok) :
    answers = outcomes.map fun outcome => .ok (.ok outcome) := by
  induction answers generalizing outcomes with
  | nil =>
    cases outcomes with
    | nil => rfl
    | cons => cases h
  | cons answer answers ih =>
    cases outcomes with
    | nil => cases h
    | cons outcome outcomes =>
      obtain ⟨hanswer, hanswers⟩ := List.cons.inj h
      rw [eq_ok_of_joined hanswer, ih hanswers, List.map_cons]

/-- Good results make a good propagation. -/
theorem gather_good (outcomes : List TargetOutcome) :
    gather (outcomes.map fun o => (o.target, .ok o.outcome)) = .ok outcomes := by
  simp [gather, List.filterMap_map]

theorem eq_map_of_good {results : List (Target × Except Error SyncOutcome)}
    (hgood : ∀ entry ∈ results, ∃ outcome, entry.2 = .ok outcome) :
    ∃ outcomes : List TargetOutcome,
      results = outcomes.map fun o => (o.target, .ok o.outcome) := by
  induction results with
  | nil => exact ⟨[], rfl⟩
  | cons entry results ih =>
    obtain ⟨⟨outcome, hentry⟩, hrest⟩ := List.forall_mem_cons.1 hgood
    obtain ⟨outcomes, rfl⟩ := ih hrest
    obtain ⟨target, result⟩ := entry
    cases hentry
    exact ⟨⟨target, outcome⟩ :: outcomes, rfl⟩

theorem gather_cases (results : List (Target × Except Error SyncOutcome)) :
    (∃ outcomes, gather results = .ok outcomes ∧
      results = outcomes.map fun o => (o.target, .ok o.outcome)) ∨
        ∃ failures, gather results = .error (.propagation failures results.length) := by
  by_cases hgood : ∀ entry ∈ results, ∃ outcome, entry.2 = .ok outcome
  · obtain ⟨outcomes, rfl⟩ := eq_map_of_good hgood
    exact .inl ⟨outcomes, gather_good outcomes, rfl⟩
  · refine .inr ?_
    cases hgather : gather results with
    | ok outcomes => exact absurd (gather_ok hgather) hgood
    | error e =>
      simp only [gather] at hgather
      split at hgather
      · cases hgather
      · cases hgather
        exact ⟨_, rfl⟩

/-- How a propagation ends, and which targets it has written. -/
inductive Spread (targets : List Target) :
    Except Stop (Except Error (List TargetOutcome)) → List Target → Prop
  | good {outcomes : List TargetOutcome} : outcomes.map (·.target) = targets →
    Spread targets (.ok (.ok outcomes)) ((outcomes.filter (·.outcome = .updated)).map (·.target))
  | failed {failures : List (Failed Error)} {updated : List Target} : updated.Sublist targets →
    Spread targets (.ok (.error (.propagation failures targets.length))) updated
  | unfinished {updated : List Target} : updated.Sublist targets →
    Spread targets (.error .unfinished) updated

theorem propagate_spreads {result : Except Stop (Except Error (List TargetOutcome))}
    (hwritten : s.past.written = []) (hmends : s.past.Every (Request.Mends bundle))
    (hrun : (propagate horizon targets bundle schedule).run.Runs Scene.Outside s result t) :
    ∃ updated, Spread targets result updated ∧
      t.past.written.Perm (updated.map Target.object) ∧ t.past.Every (Request.Mends bundle) := by
  have hstart : Spreading bundle targets
      (targets.map fun t => (t.sync horizon bundle schedule).run) s := spreading_start hwritten hmends
  rcases hrun.bind with ⟨why, rfl, htogether⟩ | ⟨results, m, htogether, hgather, hout⟩
  · obtain ⟨qs, hsteps, ⟨_, h, -⟩ | h⟩ := htogether.together_cases
    · cases h
    · cases h
      have hend := hstart.steps hsteps
      exact ⟨_, .unfinished (updatedBy_sublist hend.length_eq.ge), hend.written, hend.mends⟩
  · have hend := (hstart.steps htogether.together).outside hout
    refine ⟨_, ?_, hend.written, hend.mends⟩
    have hlength : results.length = targets.length := by
      rw [← hend.length_eq, List.length_map]
    rw [hgather]
    rcases gather_cases (targets.zip (results.map joined)) with ⟨outcomes, h, hzip⟩ | ⟨failures, h⟩
    · rw [h]
      have htargets : targets = outcomes.map (·.target) := by
        have hfst := congrArg (List.map Prod.fst) hzip
        rwa [List.map_fst_zip (by simp [hlength]), List.map_map] at hfst
      have hresults : results.map joined = (outcomes.map (·.outcome)).map .ok := by
        have hsnd := congrArg (List.map Prod.snd) hzip
        rw [List.map_snd_zip (by simp [hlength]), List.map_map] at hsnd
        rwa [List.map_map]
      rw [htargets, eq_of_joined hresults, List.map_map, List.map_map]
      exact updatedBy_done outcomes ▸ .good rfl
    · rw [h, List.length_zip, List.length_map, hlength, Nat.min_self]
      exact .failed (updatedBy_sublist hend.length_eq.ge)

end Rotation

end TrustAnchor
