import TrustAnchor.Proofs.Evaluation
import TrustAnchor.Proofs.Looking
import TrustAnchor.Proofs.Operations

/-! A pass after a good pass. What the first one leaves is as the second one wants it, byte for byte,
so the second one has nothing to do but look. -/

namespace TrustAnchor

open Script (Attempt look_attempt look_bind)

namespace Retry

variable {α : Type} {s : Scene} {schedule : Schedule} {operation : String} {horizon : Nat}
  {body : Nat → Script (Except Error α)} {a : α}

/-- A loop whose first attempt succeeds by looking needs no second one. -/
theorem onConflict_look (hbody : (body 0).look s = some (.ok a))
    (hrounds : rounds horizon schedule ≠ 0) :
    (onConflict horizon schedule operation body).look s = some (.ok a) := by
  obtain ⟨more, hmore⟩ := Nat.exists_eq_succ_of_ne_zero hrounds
  have hattempts : (attempts schedule operation Error.isConflict body (more + 1) 0
      schedule.initialDelay).look s = some (.ok a) := by
    rw [attempts, look_bind, hbody]
    rfl
  rw [onConflict, look_bind, when, hmore, hattempts]
  rfl

end Retry

/-- An attempt that finds nothing to write only looks. -/
theorem Amendment.attempt_look {k : Kind} {name : String} {β : Type} {A : Amendment k name β}
    {s : Scene} {result : Except Error β} (h : A.plan (s.object k name) = .finish result) :
    A.attempt.run.look s = some result := by
  show (act (s.object k name) (A.plan (s.object k name))).run.look s = _
  rw [h]
  rfl

namespace Rotation

variable {horizon : Nat} {c : Controller} {s t : Scene} {a b : Authority} {d : Duration}
  {name namespaceName : String} {schedule : Schedule} {bundle : Bytes} {targets : List Target}
  {found : Option Authority} {reader : Authority.Reader}

theorem load_look (h : Authority.ofEntries (s.entries name) reader = .ok found) :
    (load name reader).run.look s = some (.ok found) := by
  have hget : (Script.get .secret name).run.look s = some (.ok (s.object .secret name)) := rfl
  rw [load, look_attempt hget]
  rw [Scene.entries] at h
  cases hobject : s.object .secret name with
  | none =>
    rw [hobject] at h
    cases h
    rfl
  | some secret =>
    have hdata : Authority.ofEntries secret.data reader = .ok found := by
      rwa [hobject] at h
    dsimp only
    rw [hdata]
    rfl

theorem persist_look (h : Secret.Stores a (s.object .secret name))
    (hrounds : Retry.rounds horizon schedule ≠ 0) :
    (persist horizon name namespaceName a schedule).run.look s = some (.ok .unchanged) := by
  have hplan : (storing name namespaceName a).plan (s.object .secret name) =
      .finish (.ok .unchanged) := by
    obtain ⟨x, hx, hdata, hstringData⟩ := h
    rw [hx]
    exact if_pos (Secret.holding_eq_self_iff_data.2 ⟨hdata, hstringData⟩)
  rw [persist_eq]
  exact Retry.onConflict_look (Amendment.attempt_look hplan) hrounds

theorem sync_look {target : Target}
    (h : WebhookConfiguration.Trusts bundle (s.object (.webhook target.kind) target.name))
    (hrounds : Retry.rounds horizon schedule ≠ 0) :
    (target.sync horizon bundle schedule).run.look s = some (.ok .unchanged) := by
  have hplan : (target.syncing bundle).plan (s.object (.webhook target.kind) target.name) =
      .finish (.ok .unchanged) := by
    obtain ⟨config, hconfig, htrusts⟩ := h
    rw [hconfig]
    simp only [Target.syncing, WebhookConfiguration.unchanged_of_inSync htrusts]
    rfl
  rw [Target.sync_eq]
  exact Retry.onConflict_look (Amendment.attempt_look hplan) hrounds

theorem propagate_look
    (h : ∀ target ∈ targets,
      WebhookConfiguration.Trusts bundle (s.object (.webhook target.kind) target.name))
    (hrounds : Retry.rounds horizon schedule ≠ 0) :
    (propagate horizon targets bundle schedule).run.look s =
      some (.ok (targets.map (⟨·, .unchanged⟩))) := by
  have hsyncs : ∀ p ∈ targets.map fun t => (t.sync horizon bundle schedule).run,
      p.look s = some (.ok .unchanged) := by
    intro p hp
    obtain ⟨target, htarget, rfl⟩ := List.mem_map.1 hp
    exact sync_look (h target htarget) hrounds
  have htogether := Script.look_together hrounds hsyncs
  show (Script.together _ _ >>= fun results =>
    .done (gather (targets.zip (results.map joined)))).look s = _
  have hresults : ∀ targets : List Target,
      targets.zip (((targets.map fun t => (t.sync horizon bundle schedule).run).map
        fun _ => .ok (.ok .unchanged)).map joined) =
      (targets.map (⟨·, .unchanged⟩)).map fun o : TargetOutcome => (o.target, .ok o.outcome) := by
    intro targets
    induction targets with
    | nil => rfl
    | cons target targets ih =>
      simp only [List.map_cons, List.zip_cons_cons, ih]
      rfl
  rw [look_bind, htogether]
  show some (gather _) = _
  rw [hresults, gather_good]

/-- Where an authority is stored that can be read and has time left, and that every target trusts, a
pass only looks. -/
theorem pass_look (hstores : Secret.Stores a (s.object .secret c.caSecret))
    (hread : Authority.ofPem a.certificate a.key c.reader = .ok a)
    (htrusts : ∀ target ∈ c.targets,
      WebhookConfiguration.Trusts a.bundle (s.object (.webhook target.kind) target.name))
    (hremaining : a.remaining s.clock = .ok d) (hrounds : Retry.rounds horizon c.schedule ≠ 0) :
    (pass horizon c).run.look s =
      some (.ok ⟨d, .unchanged, none, none, c.targets.map (⟨·, .unchanged⟩)⟩) := by
  have hnow : (liftM (Script.request .now) : Attempt Instant).run.look s = some (.ok s.clock) := rfl
  have hload : (load c.caSecret c.reader).run.look s = some (.ok (some a)) := by
    apply load_look
    rw [Scene.entries_of_stores hstores]
    exact Authority.ofEntries_toEntries hread
  have hchoose : (choose (some a) s.clock).run.look s = some (.ok (a, none, d)) := by
    rw [choose, Decision.at_of_valid hremaining]
    rfl
  rw [pass_eq, look_attempt hnow, look_attempt hload, look_attempt hchoose]
  rw [look_attempt (propagate_look htrusts hrounds), look_attempt (persist_look hstores hrounds)]
  rfl

open Scene

/-- What a good pass leaves is an authority that can be read back, if what was made for the pass can
be: stored and trusted by every target, as far as others have left these alone since. -/
theorem readable_of_pass {report : PassReport} (hnames : c.caSecret ≠ c.leafSecret)
    (hpast : s.past = []) (hrun : (pass horizon c).run.Runs Outside s (.ok (.ok report)) t)
    (haccepted : ∀ a ∈ t.past.made, ∃ b, Authority.ofPem a.certificate a.key c.reader = .ok b)
    (hca : t.past.Undisturbed .secret c.caSecret)
    (htargets : ∀ target ∈ c.targets, t.past.Undisturbed (.webhook target.kind) target.name) :
    ∃ a, Authority.ofPem a.certificate a.key c.reader = .ok a ∧
      Secret.Stores a (t.object .secret c.caSecret) ∧
      ∀ target ∈ c.targets, WebhookConfiguration.Trusts a.bundle
        (t.object (.webhook target.kind) target.name) := by
  obtain ⟨now, found, a, m₁, m₂, m₃, m₄, m₅, hnow, hload, hchoose, hpropagate, hpersist,
    hwithdraw⟩ := pass_runs hrun
  have hreadable : ∃ b, Authority.ofPem a.certificate a.key c.reader = .ok b := by
    rcases choose_runs hchoose with ⟨hkeep, -, -⟩ | ⟨_, -, -, n, _, -, h, hm₃⟩
    · obtain ⟨rfl, -⟩ := Decision.at_keep hkeep
      obtain ⟨_, _, _, -, _, -, hentries⟩ := load_runs hload
      exact ⟨a, Authority.ofPem_of_ofEntries hentries⟩
    · have hmade : .request n.stores (.generate now) (.ok (.ok a)) ∈ t.past := by
        have hmade := mem_past_stable _ hm₃ (List.mem_cons_self : _ ∈ (n.after h).past)
        have hpropagated := mem_past_keeps _ _ hmade hpropagate
        have hpersisted := mem_past_keeps _ _ hpropagated hpersist
        exact mem_past_keeps _ _ hpersisted hwithdraw
      exact haccepted a (History.mem_made hmade)
  -- What is read back has the same texts.
  obtain ⟨b, hb⟩ := hreadable
  obtain ⟨hcertificate, hkey⟩ := Authority.texts_of_ofPem hb
  have hentries : b.toEntries = a.toEntries := by
    simp only [Authority.toEntries, hcertificate, hkey]
  have hbundle : b.bundle = a.bundle := by
    rw [Authority.bundle, Authority.bundle, hcertificate]
  have hfaithful : t.Faithful := (faithful_of_past_eq_nil hpast).runs hrun
  refine ⟨b, hcertificate ▸ hkey ▸ hb, ?_, fun target htarget => ?_⟩
  · have hsettled := hpersist.settled persist_settles.1 persist_settles.2
    have hother : ¬ (Kind.secret = .secret ∧ c.caSecret = c.leafSecret) := fun h => hnames h.2
    have hstores := hfaithful (lastCall_keeps withdraw_asks hother hsettled hwithdraw) hca
    rwa [Secret.Stores, hentries]
  · have hsettled := propagate_settled hpropagate target htarget
    have hpersisted := lastCall_keeps persist_asks Target.not_secret hsettled hpersist
    have hkept := lastCall_keeps withdraw_asks Target.not_secret hpersisted hwithdraw
    rw [hbundle]
    exact hfaithful hkept (htargets target htarget)

/-- After a good pass, and for as long as the stored authority lasts, a pass that is left alone does
nothing but look, finds nothing to do, and leaves everything as it is. -/
theorem pass_repeats {report : PassReport} (hnames : c.caSecret ≠ c.leafSecret)
    (hpast : s.past = []) (hrun : (pass horizon c).run.Runs Outside s (.ok (.ok report)) t)
    (haccepted : ∀ a ∈ t.past.made, ∃ b, Authority.ofPem a.certificate a.key c.reader = .ok b)
    (hca : t.past.Undisturbed .secret c.caSecret)
    (htargets : ∀ target ∈ c.targets, t.past.Undisturbed (.webhook target.kind) target.name) :
    ∃ a, Authority.ofEntries (t.entries c.caSecret) c.reader = .ok (some a) ∧
      ∀ {horizon' now result u}, horizon' ≠ 0 → now.nanos < a.notAfter.nanos →
        (pass horizon' c).run.Runs Alone (t.anew now) result u → u.past.Every Request.Heard →
        result = .ok (.ok
            { requeueAfter := ⟨(a.notAfter.nanos - now.nanos).toNat⟩
              persistence := .unchanged
              regenerated := none
              leaf := none
              propagated := c.targets.map (⟨·, .unchanged⟩) }) ∧
          (u.past.Every fun r _ => r.Looks) ∧
          ∀ k, (u.stores k).objects = (t.stores k).objects := by
  obtain ⟨a, hread, hstores, htrusts⟩ :=
    readable_of_pass hnames hpast hrun haccepted hca htargets
  refine ⟨a, ?_, fun {horizon' now result u} hhorizon hvalid hagain hheard => ?_⟩
  · rw [entries_of_stores hstores]
    exact Authority.ofEntries_toEntries hread
  · have hrounds : Retry.rounds horizon' c.schedule ≠ 0 := by
      rw [Retry.rounds]
      split <;> assumption
    have hlook := pass_look (s := t.anew now) hstores hread htrusts
      (Authority.remaining_of_lt hvalid) hrounds
    obtain ⟨hresult, hsame, hlooks⟩ := hagain.look hlook (.refl _) History.every_nil hheard
    exact ⟨hresult, hlooks, hsame.objects⟩

/-- The secret of the authority is empty, and what will be made can be read. -/
def fresh : World Cluster :=
  Sample.world ⟨1780000000000000000, 0⟩ [Sample.first] (Sample.secret "ca" []) {}

/-- The first pass stores what it has made, and another one five seconds later does nothing. -/
theorem pass_repeats_fresh : ∃ s t u report,
    (pass 1 Sample.controller).run.Runs Outside s (.ok (.ok report)) t ∧
      report.persistence = .updated ∧
      (pass 1 Sample.controller).run.Runs Alone (t.anew ⟨1780000005000000000, 0⟩)
        (.ok (.ok
          { requeueAfter := .ofSeconds 23902395
            persistence := .unchanged
            regenerated := none
            leaf := none
            propagated := Sample.controller.targets.map (⟨·, .unchanged⟩) })) u ∧
      ∀ k, (u.stores k).objects = (t.stores k).objects := by
  obtain ⟨hend, hmade, hstored⟩ : EndsIn (fun report => report.persistence = .updated)
        (Sample.pass (fresh, [])).1 ∧
      (Sample.pass (fresh, [])).2.2.made = [Sample.first] ∧
      (((Sample.pass (fresh, [])).2.1.objects.stores .secret).objects.get? "ca").bind Secret.data =
        some Sample.first.toEntries := by decide +kernel
  have hclear : fresh.Clear (· = .ofRatio false 1 2) := Sample.clear rfl
  have hleft : (Sample.pass (fresh, [])).2.1.Clear (· = .ofRatio false 1 2) := by
    rw [Sample.pass, (World.run_logged _ fresh []).2]
    exact hclear.left_clear _
  have hrun := Sample.pass_alone [] hclear.calm hclear.sound
  -- From here on it does not matter how the first pass was computed.
  generalize Sample.pass (fresh, []) = first at hend hmade hstored hleft hrun
  obtain ⟨outcome, w, past⟩ := first
  obtain ⟨report, rfl, hupdated⟩ := hend.exists
  obtain ⟨sound, hrun⟩ := hrun
  let t : Scene := w.scene sound past
  have hquiet (k : Kind) (name : String) : t.past.Undisturbed k name := by
    have hstart : (fresh.scene hclear.sound []).past.Undisturbed k name := trivial
    exact undisturbed_alone _ hstart hrun
  have haccepted : ∀ a ∈ t.past.made, ∃ b, Authority.ofPem a.certificate a.key = .ok b := by
    intro a ha
    rw [show t.past.made = [Sample.first] from hmade] at ha
    rw [List.mem_singleton.1 ha]
    exact ⟨_, Authority.ofPem_of_ofEntries Sample.ofEntries_first⟩
  obtain ⟨a, ha, hrepeats⟩ := pass_repeats (c := Sample.controller) (by decide) rfl hrun.outside
    haccepted (hquiet _ _) fun target _ => hquiet _ _
  have ha : a = Sample.first := by
    rw [show t.entries Sample.controller.caSecret = some Sample.first.toEntries from hstored] at ha
    cases Sample.ofEntries_first.symm.trans ha
    rfl
  subst ha
  let now : Instant := ⟨1780000005000000000, 0⟩
  obtain ⟨sound', past', hheard, hagain⟩ := (hleft.atTime now).runs (pass 1 Sample.controller).run
  have hvalid : now.nanos < Sample.first.notAfter.nanos := by decide
  obtain ⟨hresult, -, hsame⟩ := hrepeats (by decide) hvalid hagain hheard
  have hlasts : Duration.mk (Sample.first.notAfter.nanos - now.nanos).toNat =
      .ofSeconds 23902395 := by decide
  rw [hresult, hlasts] at hagain
  exact ⟨_, t, _, report, hrun.outside, hupdated, hagain, hsame⟩

end Rotation

end TrustAnchor
