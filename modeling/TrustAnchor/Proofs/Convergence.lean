import TrustAnchor.Proofs.Evaluation
import TrustAnchor.Proofs.Operations
import TrustAnchor.Proofs.Turns

/-! One pass in a world in which nothing fails but writes that meet a pending conflict. Whatever the
stores hold, however they came to hold it, the pass comes to a good end and leaves the authority
stored and trusted everywhere. -/

namespace TrustAnchor

open Script (Attempt Leads Follows Interleaves ofResult)

/-- No request is about two targets. -/
theorem Target.eq_of_on {target other : Target} {r : Request}
    (h : r.On (.webhook target.kind) target.name) (h' : r.On (.webhook other.kind) other.name) :
    target = other := by
  cases r with
  | store k c =>
    obtain ⟨rfl, hname⟩ := h
    obtain ⟨hkind, hname'⟩ := h'
    obtain ⟨kind, name⟩ := target
    obtain ⟨kind', name'⟩ := other
    cases hkind
    cases hname.symm.trans hname'
    rfl
  | _ => exact h.elim

namespace Rotation

section Prospering

variable {U : Binary64 → Prop} {w w' : World Cluster} {targets : List Target}
  {ps qs : List (Script (Except Error SyncOutcome))} {i : Nat} {r : Request}
  {next : Except String r.Answer → Script (Except Error SyncOutcome)}

/-- Scripts on the way, one for each target, every one of which comes to a good end as long as only
others than itself leave its target alone. -/
structure Prospering (U : Binary64 → Prop) (targets : List Target)
    (ps : List (Script (Except Error SyncOutcome))) (w : World Cluster) : Prop where
  length_eq : ps.length = targets.length
  clear : w.Clear U
  scripts {i : Nat} {target : Target} {p : Script (Except Error SyncOutcome)} :
    targets[i]? = some target → ps[i]? = some p → ∃ n, w.pending (.webhook target.kind) ≤ n ∧
      p.Leads U (.webhook target.kind) target.name (fun result _ _ => ∃ outcome, result = .ok outcome)
        (w.object (.webhook target.kind) target.name) n

namespace Prospering

/-- A request of one script leaves the targets of all others as they are. -/
theorem step (hnodup : targets.Nodup) (H : Prospering U targets ps w)
    (hp : ps[i]? = some (.ask r next)) :
    Prospering U targets (ps.set i (next (w.answer r))) (w.after r) := by
  have hi : i < targets.length := by
    rw [← H.length_eq]
    exact (List.getElem?_eq_some_iff.1 hp).1
  have htarget : targets[i]? = some targets[i] := List.getElem?_eq_getElem hi
  obtain ⟨n, hn, hleads⟩ := H.scripts htarget hp
  refine ⟨by rw [List.length_set, H.length_eq], H.clear.after r, fun {j other q} hother hq => ?_⟩
  by_cases hij : i = j
  · subst hij
    rw [List.getElem?_set_self (List.getElem?_eq_some_iff.1 hp).1] at hq
    cases htarget.symm.trans hother
    cases hq
    exact hleads.2 H.clear rfl hn
  · rw [List.getElem?_set_ne hij] at hq
    obtain ⟨m, hm, hleads'⟩ := H.scripts hother hq
    have hne : targets[i] ≠ other := by
      rintro rfl
      exact hij (hnodup.getElem_inj_iff.1 (List.getElem?_eq_some_iff.1 hother).2).symm
    have hoff : ¬ r.On (.webhook other.kind) other.name := by
      intro hon
      obtain hidle | hself := hleads.1
      · exact hidle.not_on hon
      · exact hne (Target.eq_of_on hself hon)
    refine ⟨m, (H.clear.pending_after r).trans hm, ?_⟩
    rwa [H.clear.object_after hoff]

theorem interleaves (hnodup : targets.Nodup) (H : Prospering U targets ps w)
    (hsteps : Interleaves World.moves ps w qs w') : Prospering U targets qs w' := by
  induction hsteps with
  | rest => exact H
  | step hp hmoves _ ih =>
    obtain ⟨rfl, rfl⟩ := hmoves
    exact ih (H.step hnodup hp)

/-- Scripts that have all ended have come to a good end. -/
theorem results {outcomes : List (Except String (Except Error SyncOutcome))}
    (H : Prospering U targets (outcomes.map fun o => ofResult (o.mapError .panicked)) w) :
    ∀ o ∈ outcomes, ∃ outcome, o = .ok (.ok outcome) := by
  intro o ho
  obtain ⟨i, hi, rfl⟩ := List.mem_iff_getElem.1 ho
  have hlength := H.length_eq
  rw [List.length_map] at hlength
  have hp : (outcomes.map fun o => ofResult (o.mapError .panicked))[i]? =
      some (ofResult (outcomes[i].mapError .panicked)) := by
    rw [List.getElem?_map, List.getElem?_eq_getElem hi, Option.map_some]
  obtain ⟨n, -, hleads⟩ := H.scripts (List.getElem?_eq_getElem (hlength ▸ hi)) hp
  cases ho : outcomes[i] with
  | error text =>
    rw [ho] at hleads
    exact hleads.elim
  | ok result =>
    rw [ho] at hleads
    obtain ⟨outcome, rfl⟩ := hleads
    exact ⟨outcome, rfl⟩

end Prospering

end Prospering

open World Scene

variable {U : Binary64 → Prop} {horizon : Nat} {c : Controller} {w w' : World Cluster}
  {name : String} {a : Authority} {found : Option Authority} {now : Instant} {bundle : Bytes}
  {schedule : Schedule} {reader : Authority.Reader}

/-- A world in which a pass has nothing to fear: nothing fails but writes that meet a conflict, fewer
of which are pending than the attempts that are made, and all delays can be computed. -/
structure Favourable (U : Binary64 → Prop) (schedule : Schedule) (w : World Cluster) : Prop where
  clear : w.Clear U
  pending : ∀ k, w.pending k < schedule.maxAttempts
  steady : schedule.Steady U (schedule.maxAttempts - 1) schedule.initialDelay

/-- No script makes a world less favourable, or does anything to objects that it is not about. -/
theorem Favourable.yields {α : Type} {x : Attempt α} {v : α} {S : Kind → String → Prop}
    (H : Favourable U schedule w) (hasks : x.run.Asks (Request.Within S))
    (hx : w.Yields x v w') :
    Favourable U schedule w' ∧
      ∀ {k name}, ¬ S k name → w'.object k name = w.object k name := by
  obtain ⟨hclear, hpending, hobject⟩ := H.clear.left hasks
  rw [hx.left] at hclear hpending hobject
  exact ⟨⟨hclear, fun k => (hpending k).trans_lt (H.pending k), H.steady⟩, hobject⟩

section Steps

theorem load_within : (load name reader).run.Asks
    (Request.Within fun k other => k = .secret ∧ other = name) := load_asks_of ⟨rfl, rfl⟩

theorem choose_within : (choose found now).run.Asks (Request.Within fun _ _ => False) :=
  choose_asks_of trivial

/-- What is stored is what is loaded. -/
theorem load_yields (H : w.Clear U)
    (hfound : Authority.ofEntries ((w.object .secret name).bind Secret.data) reader = .ok found) :
    w.Yields (load name reader) found (w.after (.store .secret (.get name))) := by
  refine H.yields_get.bind ?_
  cases hobject : w.object .secret name with
  | none =>
    rw [hobject] at hfound
    cases hfound
    exact .pure
  | some secret =>
    have hdata : Authority.ofEntries secret.data reader = .ok found := by
      rwa [hobject] at hfound
    dsimp only
    rw [hdata]
    exact .pure

/-- The authority that a pass goes by: the one that is stored, if it has time left, or else the one
that is made. -/
inductive Elected (e : Environment) (found : Option Authority) (a : Authority) : Prop
  | kept {d : Duration} : found = some a → a.remaining e.clock = .ok d → Elected e found a
  | made : (∀ b, found = some b → b.notAfter.nanos ≤ e.clock.nanos) →
    (e.generate e.clock).1 = .ok (.ok a) → Elected e found a

/-- If an authority has to be made, one is, and it is valid for some time. -/
def Supplied (e : Environment) (found : Option Authority) : Prop :=
  (∀ b, found = some b → b.notAfter.nanos ≤ e.clock.nanos) →
    ∃ a, (e.generate e.clock).1 = .ok (.ok a) ∧ a.notBefore.nanos < a.notAfter.nanos

theorem choose_yields (hsupplied : Supplied w.env found) : ∃ a regenerated d w',
    w.Yields (choose found w.env.clock) (a, regenerated, d) w' ∧ Elected w.env found a := by
  cases hdecision : Decision.at found w.env.clock with
  | keep a d =>
    obtain ⟨hstored, hremaining⟩ := Decision.at_keep hdecision
    refine ⟨a, none, d, w, ?_, .kept hstored hremaining⟩
    rw [choose, hdecision]
    exact .pure
  | regenerate reason =>
    have hexpired : ∀ b, found = some b → b.notAfter.nanos ≤ w.env.clock.nanos := by
      rintro b rfl
      exact Decision.expired_of_regenerate hdecision
    obtain ⟨a, hanswer, hwindow⟩ := hsupplied hexpired
    obtain ⟨d, hvalidity⟩ : ∃ d, a.remaining a.notBefore = .ok d :=
      ⟨_, Authority.remaining_of_lt hwindow⟩
    have hgenerate : w.Yields (generate w.env.clock) (a, d) (w.after (.generate w.env.clock)) := by
      refine .bind (.lift hanswer) (.bind .pure ?_)
      rw [hvalidity]
      exact .bind .pure .pure
    have hchoose : w.Yields (choose found w.env.clock) (a, some reason, d)
        (w.after (.generate w.env.clock)) := by
      rw [choose, hdecision]
      exact hgenerate.bind .pure
    exact ⟨a, some reason, d, _, hchoose, .made hexpired hanswer⟩

theorem propagate_yields {targets : List Target} (H : Favourable U schedule w)
    (hnodup : targets.Nodup)
    (hpresent : ∀ target ∈ targets, w.object (.webhook target.kind) target.name ≠ none) :
    ∃ outcomes w', w.Yields (propagate horizon targets bundle schedule) outcomes w' := by
  have hstart : Prospering U targets (targets.map fun t => (t.sync horizon bundle schedule).run)
      w := by
    refine ⟨List.length_map _, H.clear, fun {i target p} htarget hp => ?_⟩
    rw [List.getElem?_map, htarget] at hp
    cases hp
    have hthere := hpresent target (List.mem_of_getElem? htarget)
    exact ⟨_, Nat.le_refl _, sync_leads hthere (H.pending _) H.steady⟩
  have hattempts : schedule.maxAttempts ≠ 0 := by
    have hpending := H.pending .secret
    omega
  rcases (w.follows (propagate horizon targets bundle schedule).run).bind with
    ⟨why, -, htogether⟩ | ⟨results, w', htogether, hresult, -⟩
  · obtain ⟨qs, -, ⟨_, h, -⟩ | h⟩ := htogether.together
    · cases h
    · exact absurd h ((syncs_finish hattempts).not_unfinished htogether)
  · obtain ⟨qs, hsteps, ⟨results, h, rfl⟩ | h⟩ := htogether.together
    case inr => cases h
    cases h
    have hgood := (hstart.interleaves hnodup hsteps).results
    have hjoined : ∀ entry ∈ targets.zip (results.map joined), ∃ outcome, entry.2 = .ok outcome := by
      intro entry hentry
      obtain ⟨o, ho, hjoin⟩ := List.mem_map.1 (List.of_mem_zip hentry).2
      obtain ⟨outcome, rfl⟩ := hgood o ho
      exact ⟨outcome, hjoin.symm⟩
    obtain ⟨outcomes, hzip⟩ := eq_map_of_good hjoined
    rw [hzip, gather_good] at hresult
    exact ⟨outcomes, _, .of_result hresult⟩

theorem persist_yields {namespaceName : String} (H : Favourable U schedule w) : ∃ written w',
    w.Yields (persist horizon name namespaceName a schedule) written w' := by
  obtain ⟨result, -, hresult, written, rfl⟩ :=
    H.clear.leads (persist_leads (H.pending .secret) H.steady) (Nat.le_refl _)
  exact ⟨written, _, .of_result hresult⟩

theorem withdraw_yields {written : Written} (H : Favourable U c.schedule w) :
    ∃ leaf w', w.Yields (withdraw horizon c written) leaf w' := by
  cases written with
  | created | unchanged => exact ⟨none, w, .pure⟩
  | updated =>
    obtain ⟨result, -, hresult, change, rfl⟩ :=
      H.clear.leads (invalidateLeaf_leads (H.pending .secret) H.steady) (Nat.le_refl _)
    exact ⟨some change, _, (Yields.of_result hresult).bind .pure⟩

end Steps

theorem withdraw_settles :
    (withdraw horizon c .updated).run.Settles .secret c.leafSecret Secret.Blank ∧
      (withdraw horizon c .updated).run.Owes .secret c.leafSecret := by
  obtain ⟨hsettles, howes⟩ : (invalidateLeaf horizon c.leafSecret c.schedule).run.Settles .secret
      c.leafSecret Secret.Blank ∧ _ := invalidateLeaf_settles
  rw [withdraw, ExceptT.run_bind]
  refine ⟨hsettles.bind (fun _ => trivial) fun result => ?_, howes.bind fun _ => trivial⟩
  cases result <;> trivial

/-- An attempt that settles an object leaves it as it should be. -/
theorem Favourable.settled {α : Type} {x : Attempt α} {v : α} {k : Kind}
    {φ : Option k.Object → Prop} (H : Favourable U schedule w) (hx : w.Yields x v w')
    (hsettles : x.run.Settles k name φ ∧ x.run.Owes k name) : φ (w'.object k name) := by
  rw [← hx.left]
  refine H.clear.object_left fun {s t} hrun => ?_
  rw [hx.result] at hrun
  exact hrun.settled hsettles.1 hsettles.2

/-- From whatever is stored, as long as it is an authority or none at all, one pass comes to a good
end: the authority that has time left, or else the one that was made, is stored and trusted by every
target, and if an authority was replaced, the secret of the issued certificate is empty. -/
theorem pass_converges (hnames : c.caSecret ≠ c.leafSecret) (H : Favourable U c.schedule w)
    (hnodup : c.targets.Nodup)
    (hpresent : ∀ target ∈ c.targets, w.object (.webhook target.kind) target.name ≠ none)
    (hfound : Authority.ofEntries ((w.object .secret c.caSecret).bind Secret.data) c.reader =
      .ok found)
    (hsupplied : Supplied w.env found) :
    ∃ report a w', w.Yields (pass horizon c) report w' ∧ Elected w.env found a ∧
      Secret.Stores a (w'.object .secret c.caSecret) ∧
      (∀ target ∈ c.targets, WebhookConfiguration.Trusts a.bundle
        (w'.object (.webhook target.kind) target.name)) ∧
      (report.persistence = .updated → Secret.Blank (w'.object .secret c.leafSecret)) := by
  -- Every step is in a favourable world, and the targets stay where they are up to their turn.
  have hload := load_yields H.clear hfound
  obtain ⟨H₁, hsame₁⟩ := H.yields load_within hload
  obtain ⟨a, regenerated, d, w₂, hchoose, helected⟩ :=
    choose_yields (w := w.after (.store .secret (.get c.caSecret))) hsupplied
  obtain ⟨H₂, hsame₂⟩ := H₁.yields choose_within hchoose
  have hthere : ∀ target ∈ c.targets, w₂.object (.webhook target.kind) target.name ≠ none := by
    intro target htarget
    rw [hsame₂ id, hsame₁ Target.not_secret]
    exact hpresent target htarget
  obtain ⟨outcomes, w₃, hpropagate⟩ : ∃ outcomes w₃,
      w₂.Yields (propagate horizon c.targets a.bundle c.schedule) outcomes w₃ :=
    propagate_yields H₂ hnodup hthere
  obtain ⟨H₃, -⟩ := H₂.yields propagate_asks hpropagate
  obtain ⟨written, w₄, hpersist⟩ : ∃ written w₄,
      w₃.Yields (persist horizon c.caSecret c.namespaceName a c.schedule) written w₄ :=
    persist_yields H₃
  obtain ⟨H₄, hsame₄⟩ := H₃.yields persist_asks hpersist
  obtain ⟨leaf, w₅, hwithdraw⟩ : ∃ leaf w₅, w₄.Yields (withdraw horizon c written) leaf w₅ :=
    withdraw_yields H₄
  obtain ⟨H₅, hsame₅⟩ := H₄.yields withdraw_asks hwithdraw
  refine ⟨⟨d, written, regenerated, leaf, outcomes⟩, a, w₅, ?_, helected, ?_, ?_, ?_⟩
  · rw [pass_eq]
    have hnow : w.Yields (liftM (Script.request .now)) w.env.clock w := .lift rfl
    exact hnow.bind (hload.bind (hchoose.bind (hpropagate.bind (hpersist.bind
      (hwithdraw.bind .pure)))))
  · have hstores := H₃.settled hpersist persist_settles
    rwa [hsame₅ fun h => hnames h.2]
  · intro target htarget
    have htrusts : WebhookConfiguration.Trusts a.bundle
        (w₃.object (.webhook target.kind) target.name) := by
      rw [← hpropagate.left]
      refine H₂.clear.object_left fun {s t} hrun => ?_
      rw [hpropagate.result] at hrun
      exact propagate_settled hrun target htarget
    rwa [hsame₅ Target.not_secret, hsame₄ Target.not_secret]
  · rintro rfl
    exact H₄.settled hwithdraw withdraw_settles

/-- The stored authority has expired. -/
def outdated : World Cluster :=
  Sample.world ⟨1810000000000000000, 0⟩ [Sample.second]
    ((Sample.secret "ca" []).holding Sample.first) {}

/-- In every store as many conflicts are pending as the schedule has room for. -/
def obstructed : World Cluster :=
  let obstruct {α : Type} (s : Site α) : Site α :=
    { s with store := { s.store with pendingConflicts := 3 } }
  { outdated with objects :=
    { secrets := obstruct outdated.objects.secrets
      mutating := obstruct outdated.objects.mutating
      validating := obstruct outdated.objects.validating } }

theorem favourable_obstructed :
    Favourable (· = .ofRatio false 1 2) Sample.controller.schedule obstructed := by
  have H : outdated.Clear (· = .ofRatio false 1 2) := Sample.clear rfl
  refine ⟨⟨fun k => ?_, fun k => ?_, fun k => ?_, H.offers⟩, fun k => ?_, by decide +kernel⟩
  · have hsound := H.sound k
    match k with
    | .secret | .webhook .mutating | .webhook .validating => exact ⟨hsound.name, hsound.version⟩
  · have hweather := H.weather k
    match k with
    | .secret | .webhook .mutating | .webhook .validating => exact hweather
  · have hwilling := H.willing k
    match k with
    | .secret | .webhook .mutating | .webhook .validating => exact ⟨hwilling.reads, hwilling.writes⟩
  · match k with
    | .secret | .webhook .mutating | .webhook .validating => exact Nat.lt_succ_self 3

theorem pass_converges_obstructed : ∃ report w',
    obstructed.Yields (pass 1 Sample.controller) report w' ∧
      Secret.Stores Sample.second (w'.object .secret "ca") ∧
      (∀ target ∈ Sample.controller.targets, WebhookConfiguration.Trusts Sample.second.bundle
        (w'.object (.webhook target.kind) target.name)) := by
  have hfound : Authority.ofEntries ((obstructed.object .secret "ca").bind Secret.data) =
      .ok (some Sample.first) := by
    have hobject : obstructed.object .secret "ca" =
      some (Resource.withVersion ((Sample.secret "ca" []).holding Sample.first) 1) :=
      Sample.get?_ca (w := outdated) rfl rfl
    rw [hobject]
    exact Sample.ofEntries_first
  have hpresent : ∀ target ∈ Sample.controller.targets,
      obstructed.object (.webhook target.kind) target.name ≠ none := by
    decide
  have hsupplied : Supplied obstructed.env (some Sample.first) :=
    fun _ => ⟨Sample.second, rfl, by decide⟩
  obtain ⟨report, a, w', hpass, helected, hstores, htargets, -⟩ : ∃ report a w',
      obstructed.Yields (pass 1 Sample.controller) report w' ∧ _ :=
    pass_converges (by decide) favourable_obstructed (by decide) hpresent hfound hsupplied
  have ha : a = Sample.second := by
    cases helected with
    | kept hfirst hremaining =>
      cases hfirst
      cases hremaining
    | made _ hmade =>
      cases hmade
      rfl
  subst ha
  exact ⟨report, w', hpass, hstores, htargets⟩

end Rotation

end TrustAnchor
