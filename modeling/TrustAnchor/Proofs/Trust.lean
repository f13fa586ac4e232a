import TrustAnchor.Proofs.Entries
import TrustAnchor.Proofs.Steps
import TrustAnchor.Proofs.Surroundings

/-! What a good pass leaves behind, whatever else goes on around it: the authority that it went by
is stored, every target carries its certificate, and nothing is left that was issued under an
authority that it replaced. -/

namespace TrustAnchor

open Script (Attempt)

theorem Decision.at_keep {found : Option Authority} {now : Instant} {a : Authority}
    {remaining : Duration} (h : Decision.at found now = .keep a remaining) :
    found = some a ∧ a.remaining now = .ok remaining := by
  cases found with
  | none => cases h
  | some b =>
    cases hb : b.remaining now with
    | error e =>
      simp only [Decision.at, hb] at h
      cases h
    | ok d =>
      simp only [Decision.at, hb] at h
      cases h
      exact ⟨rfl, hb⟩

/-- The secret stores the authority and nothing besides it. -/
def Secret.Stores (a : Authority) (found : Option Secret) : Prop :=
  ∃ x, found = some x ∧ x.data = some a.toEntries ∧ x.stringData = none

/-- Nothing is stored, in either form; there may be no secret at all. -/
def Secret.Blank (found : Option Secret) : Prop := ∀ x, found = some x → x.hasContent = false

theorem Secret.blank_none : Secret.Blank none := fun _ h => by cases h

instance : (found : Option Secret) → Decidable (Secret.Blank found)
  | none => isTrue Secret.blank_none
  | some x =>
    decidable_of_iff (x.hasContent = false) ⟨fun h _ hx => Option.some.inj hx ▸ h, fun h => h x rfl⟩

/-- Every entry that is reached by a service carries the bundle. -/
def WebhookConfiguration.Trusts (bundle : Bytes) (found : Option WebhookConfiguration) : Prop :=
  ∃ config, found = some config ∧
    ∀ w ∈ config.entries, w.service.isSome → w.bundle = some bundle

namespace Rotation

variable {horizon : Nat} {name namespaceName : String} {a : Authority} {schedule : Schedule}
  {bundle : Bytes} {targets : List Target}

theorem hasContent_cleared (x : Secret) : x.cleared.hasContent = false := rfl

section Plans

variable {found : Option Secret} {x : Secret} {written : Written} {change : LeafChange}

theorem storing_finish (h : (storing name namespaceName a).plan found = .finish (.ok written)) :
    ∃ x, found = some x ∧ x.holding a = x ∧ written = .unchanged := by
  obtain ⟨x, hfound, hsame, hresult⟩ := creation_finish h
  cases hresult
  exact ⟨x, hfound, hsame, rfl⟩

theorem storing_write (h : (storing name namespaceName a).plan found = .write x written) :
    (∀ n, Secret.Stores a (some (Resource.withVersion x n))) ∧
      (found = none ∧ written = .created ∨
        ∃ y, found = some y ∧ y.holding a ≠ y ∧ written = .updated) := by
  rcases creation_write h with ⟨hnone, rfl, hwritten⟩ | ⟨y, hfound, hother, rfl, hwritten⟩
  · exact ⟨fun n => ⟨_, rfl, rfl, rfl⟩, .inl ⟨hnone, hwritten⟩⟩
  · exact ⟨fun n => ⟨_, rfl, rfl, rfl⟩, .inr ⟨y, hfound, hother, hwritten⟩⟩

theorem clearing_finish (h : (clearing name).plan found = .finish (.ok change)) :
    Secret.Blank found := by
  cases found with
  | none => exact Secret.blank_none
  | some x =>
    simp only [clearing] at h
    split at h
    · cases h
    · rename_i hcontent
      intro y hy
      cases hy
      exact Bool.eq_false_iff.2 hcontent

theorem clearing_write (h : (clearing name).plan found = .write x change) (n : Nat) :
    Secret.Blank (some (Resource.withVersion x n)) := by
  cases found with
  | none => cases h
  | some y =>
    simp only [clearing] at h
    split at h
    · cases h
      intro z hz
      cases hz
      exact hasContent_cleared y
    · cases h

end Plans

theorem persist_settles :
    (persist horizon name namespaceName a schedule).run.Settles .secret name (Secret.Stores a) ∧
      (persist horizon name namespaceName a schedule).run.Owes .secret name := by
  rw [persist_eq]
  refine Retry.onConflict_settles fun _ => Amendment.settles _ (fun hplan => ?_)
    fun hplan => (storing_write hplan).1
  obtain ⟨x, rfl, hsame, -⟩ := storing_finish hplan
  rw [← hsame]
  exact ⟨_, rfl, rfl, rfl⟩

theorem invalidateLeaf_settles :
    (invalidateLeaf horizon name schedule).run.Settles .secret name Secret.Blank ∧
      (invalidateLeaf horizon name schedule).run.Owes .secret name := by
  rw [invalidateLeaf_eq]
  exact Script.settles_mapError (Retry.onConflict_settles fun _ =>
    Amendment.settles _ clearing_finish clearing_write)

theorem sync_settles {target : Target} :
    (target.sync horizon bundle schedule).run.Settles (.webhook target.kind) target.name
        (WebhookConfiguration.Trusts bundle) ∧
      (target.sync horizon bundle schedule).run.Owes (.webhook target.kind) target.name := by
  rw [Target.sync_eq]
  refine Retry.onConflict_settles fun _ => Amendment.settles _ (fun {found b} hplan => ?_)
    fun {found x b} hplan n => ?_
  · cases found with
    | none => cases hplan
    | some config =>
      simp only [Target.syncing] at hplan
      split at hplan
      · cases hplan
      · rename_i hchanged
        have hsync := WebhookConfiguration.inSync_of_unchanged (Bool.eq_false_iff.2 hchanged)
        exact ⟨config, rfl, WebhookConfiguration.inSync_iff.1 hsync⟩
  · cases found with
    | none => cases hplan
    | some config =>
      simp only [Target.syncing] at hplan
      split at hplan
      · cases hplan
        exact ⟨_, rfl, WebhookConfiguration.inSync_iff.1 WebhookConfiguration.inSync_inject⟩
      · cases hplan

/-- Tasks for other targets leave a target alone, and those for the same target settle it too. -/
theorem sync_settles_all {target other : Target} :
    (other.sync horizon bundle schedule).run.Settles (.webhook target.kind) target.name
      (WebhookConfiguration.Trusts bundle) := by
  by_cases h : other = target
  · rw [h]
    exact sync_settles.1
  · refine (sync_asks.mono fun r hr => hr.not_on ?_).settles
    obtain ⟨kind, name⟩ := target
    obtain ⟨kind', name'⟩ := other
    rintro ⟨hkind, hname⟩
    cases hkind
    cases hname
    exact h rfl

/-- Only good results make a good propagation. -/
theorem gather_ok {results : List (Target × Except Error SyncOutcome)}
    {outcomes : List TargetOutcome} (h : gather results = .ok outcomes) :
    ∀ p ∈ results, ∃ outcome, p.2 = .ok outcome := by
  rintro ⟨target, result⟩ hp
  cases result with
  | ok outcome => exact ⟨outcome, rfl⟩
  | error e =>
    simp only [gather] at h
    split at h
    · rename_i hempty
      cases List.filterMap_eq_nil_iff.1 (List.isEmpty_iff.1 hempty) _ hp
    · cases h

theorem eq_ok_of_joined {answer : Except String (Except Error SyncOutcome)} {outcome : SyncOutcome}
    (h : joined answer = .ok outcome) : answer = .ok (.ok outcome) := by
  cases answer with
  | error text => cases h
  | ok result => rw [← h, joined]

/-- After a good propagation every target has been seen to carry the bundle. -/
theorem propagate_settled {s t : Scene} {outcomes : List TargetOutcome}
    (hrun : (propagate horizon targets bundle schedule).run.Runs Scene.Outside s
      (.ok (.ok outcomes)) t) :
    ∀ target ∈ targets, t.past.LastCall (.webhook target.kind) target.name
      (Request.Shows (.webhook target.kind) (WebhookConfiguration.Trusts bundle)) := by
  intro target htarget
  obtain ⟨results, m, htogether, hgather, hout⟩ := hrun.bind_ok
  have hlength : results.length = targets.length := by
    have h := htogether.together.length_eq
    rwa [List.length_map, List.length_map] at h
  have hgood : ∀ o ∈ results, ∃ outcome, o = .ok (.ok outcome) := by
    intro o ho
    obtain ⟨i, hi, rfl⟩ := List.mem_iff_getElem.1 ho
    have hmem : (targets[i], joined results[i]) ∈ targets.zip (results.map joined) :=
      List.mem_iff_getElem.2 ⟨i, by simp [← hlength, hi], by simp⟩
    obtain ⟨outcome, houtcome⟩ := gather_ok (Except.ok.inj hgather).symm _ hmem
    exact ⟨outcome, eq_ok_of_joined houtcome⟩
  refine Scene.lastCall_stable hout (htogether.together_settled hgood (fun p hp => ?_)
    ⟨_, List.mem_map_of_mem htarget, sync_settles.2⟩)
  obtain ⟨other, -, rfl⟩ := List.mem_map.1 hp
  exact sync_settles_all

/-- Where the authority of a pass comes from: it was found stored and had time left at the time of
the pass, or it was made for the pass. -/
inductive Origin (c : Controller) (now : Instant) (past : History) (a : Authority) :
    Option RegenerateReason → Prop
  | kept {before : Stores} {x : Secret} {d : Duration} :
    .request before (.store .secret (.get c.caSecret)) (.ok (.ok (some x))) ∈ past →
    Authority.ofEntries x.data c.reader = .ok (some a) → a.remaining now = .ok d →
    Origin c now past a none
  | made {before : Stores} {reason : RegenerateReason} :
    .request before (.generate now) (.ok (.ok a)) ∈ past → Origin c now past a (some reason)

open Scene in
/-- A good pass, with others writing all the while, has gone by one authority. Unless another writer
has come in after the last call on it, the secret stores this authority, each target carries its
certificate, and, if an authority was replaced, the secret of the issued certificate is empty. -/
theorem trust_of_pass {c : Controller} {s t : Scene} {report : PassReport}
    (hnames : c.caSecret ≠ c.leafSecret) (hpast : s.past = [])
    (hrun : (pass horizon c).run.Runs Outside s (.ok (.ok report)) t) :
    ∃ a, Origin c s.clock t.past a report.regenerated ∧
      (t.past.Undisturbed .secret c.caSecret → Secret.Stores a (t.object .secret c.caSecret)) ∧
      (∀ target ∈ c.targets, t.past.Undisturbed (.webhook target.kind) target.name →
        WebhookConfiguration.Trusts a.bundle (t.object (.webhook target.kind) target.name)) ∧
      (report.persistence = .updated → t.past.Undisturbed .secret c.leafSecret →
        Secret.Blank (t.object .secret c.leafSecret)) := by
  have hfaithful : t.Faithful := (faithful_of_past_eq_nil hpast).runs hrun
  obtain ⟨now, found, a, m₁, m₂, m₃, m₄, m₅, hnow, hload, hchoose, hpropagate, hpersist,
    hwithdraw⟩ := pass_runs hrun
  refine ⟨a, ?_, fun hquiet => ?_, fun target htarget hquiet => ?_, fun hupdated hquiet => ?_⟩
  · obtain ⟨n₁, _, hs₁, hanswer, hn₁⟩ := now_runs hnow
    have hclock : now = s.clock := by
      cases hanswer
      exact hs₁.clock_eq
    subst hclock
    -- What was read and what was made stays in the past to the end of the pass.
    have hlater {e} (he : e ∈ m₃.past) : e ∈ t.past :=
      mem_past_keeps e _ (mem_past_keeps e _ (mem_past_keeps e _ he hpropagate) hpersist) hwithdraw
    rcases choose_runs hchoose with ⟨hkeep, hnone, hm₃⟩ | ⟨reason, -, hreason, n, _, hn, h, hm₃⟩
    · obtain ⟨n, x, _, hn, h, hm₂, hentries⟩ := load_runs hload
      obtain ⟨rfl, hremaining⟩ := Decision.at_keep hkeep
      cases x with
      | none => cases hentries
      | some x =>
        have hread := mem_past_stable _ hm₃
          (mem_past_stable _ hm₂ (List.mem_cons_self : _ ∈ (n.after h).past))
        rw [hnone]
        exact .kept (hlater hread) hentries hremaining
    · rw [hreason]
      exact .made (hlater (mem_past_stable _ hm₃ List.mem_cons_self))
  · have hsettled := hpersist.settled persist_settles.1 persist_settles.2
    have hother : ¬ (Kind.secret = .secret ∧ c.caSecret = c.leafSecret) := fun h => hnames h.2
    exact hfaithful (lastCall_keeps withdraw_asks hother hsettled hwithdraw) hquiet
  · refine hfaithful ?_ hquiet
    have hsettled := propagate_settled hpropagate target htarget
    have hother {other : String} : ¬ (Kind.webhook target.kind = .secret ∧ target.name = other) :=
      nofun
    have hpersisted := lastCall_keeps persist_asks hother hsettled hpersist
    exact lastCall_keeps withdraw_asks hother hpersisted hwithdraw
  · rw [hupdated] at hwithdraw
    obtain ⟨change, m₆, hinvalidate, -, hout⟩ := Script.Runs.attempt_ok hwithdraw
    refine hfaithful (Scene.lastCall_stable hout ?_) hquiet
    exact hinvalidate.settled invalidateLeaf_settles.1 invalidateLeaf_settles.2

/-- The secret of the authority is empty. Just before it is written another writer writes it. -/
def contended : World Cluster :=
  Sample.world ⟨0, 0⟩ [⟨"certificate", "key", ⟨0, 0⟩, ⟨60000000000, 0⟩⟩] (Sample.secret "ca" [])
    { writes := [.race (Sample.secret "ca" [("ca.crt", [1])])] }

theorem trust_of_contended_pass : ∃ s t report a, s.past = [] ∧
    (pass 1 Sample.controller).run.Runs Scene.Outside s (.ok (.ok report)) t ∧
      report.persistence = .updated ∧ ¬ Secret.Blank (s.object .secret "leaf") ∧
      Secret.Stores a (t.object .secret "ca") ∧
      (∀ target ∈ Sample.controller.targets, WebhookConfiguration.Trusts a.bundle
        (t.object (.webhook target.kind) target.name)) ∧
      Secret.Blank (t.object .secret "leaf") := by
  obtain ⟨hend, hquiet⟩ : EndsIn (fun report => report.persistence = .updated)
        (Sample.pass (contended, [])).1 ∧
      ∀ q ∈ [(Kind.secret, "ca"), (.secret, "leaf"), (.webhook .mutating, "mutating"),
          (.webhook .validating, "validating")],
        (Sample.pass (contended, [])).2.2.Undisturbed q.1 q.2 := by decide +kernel
  obtain ⟨sound, hrun⟩ := Sample.pass_outside contended [] (Sample.sound rfl)
  obtain ⟨report, hreport, hupdated⟩ := hend.exists
  rw [hreport] at hrun
  obtain ⟨a, -, hca, htargets, hleaf⟩ := trust_of_pass (by decide) rfl hrun
  refine ⟨_, _, report, a, rfl, hrun, hupdated, by decide, hca ?_, fun target htarget => ?_,
    hleaf hupdated ?_⟩
  · exact hquiet (.secret, "ca") (by decide)
  · refine htargets target htarget (hquiet (.webhook target.kind, target.name) ?_)
    revert target
    decide
  · exact hquiet (.secret, "leaf") (by decide)

end Rotation

end TrustAnchor
