import TrustAnchor.Proofs.Footprint
import TrustAnchor.Proofs.Together
import TrustAnchor.Proofs.Trials
import TrustAnchor.Proofs.Turns

/-! How a propagation adds up. The loop of every target goes to its own end, whatever becomes of the
others, and the propagation has a result for each target, in their order: all outcomes if all are
good, or else all failures. The outcomes that tell of a write are as many as there were writes. -/

namespace TrustAnchor

open Script (Attempt Asks Follows Interleaves Runs ofResult)

/-! ## Who made which exchange -/

/-- What one of several scripts side by side has exchanged, where each exchange goes with the place
of the script that made it. -/
def exchangesOf (i : Nat) (turns : List (Nat × Exchange)) : List Exchange :=
  (turns.filter (·.1 = i)).map (·.2)

section Turns

variable {i j : Nat} {x : Exchange} {turns : List (Nat × Exchange)}

theorem exchangesOf_cons_self : exchangesOf i ((i, x) :: turns) = x :: exchangesOf i turns := by
  simp [exchangesOf]

theorem exchangesOf_cons_of_ne (h : j ≠ i) :
    exchangesOf i ((j, x) :: turns) = exchangesOf i turns := by
  simp [exchangesOf, h]

end Turns

/-- Scripts side by side leave their exchanges behind, and those of each script that has come to an
end are a trace of it. -/
theorem Script.Interleaves.turns {α : Type} {ps qs : List (Script α)} {s t : Scene}
    (H : Interleaves (Scene.moves Scene.Outside) ps s qs t) : ∃ turns : List (Nat × Exchange),
    t.past.exchanges = (turns.map (·.2)).reverse ++ s.past.exchanges ∧
      (∀ turn ∈ turns, turn.1 < ps.length) ∧
      ∀ {i : Nat} {p : Script α} {result : Except Stop α}, ps[i]? = some p →
        qs[i]? = some (ofResult result) →
        p.Trace (exchangesOf i turns) result := by
  induction H with
  | rest =>
    refine ⟨[], rfl, by simp, fun {i p result} hp hq => ?_⟩
    cases hp.symm.trans hq
    cases result with
    | ok a => exact ⟨rfl, rfl⟩
    | error why => exact ⟨rfl, rfl⟩
  | @step ps s m i r next answer qs t hp hmoves _ ih =>
    obtain ⟨n, stores, hn, hanswer, rfl⟩ := hmoves
    obtain ⟨turns, hpast, hplaces, htrace⟩ := ih
    have hi : i < ps.length := (List.getElem?_eq_some_iff.1 hp).1
    rw [List.length_set] at hplaces
    refine ⟨(i, ⟨r, answer⟩) :: turns, ?_, List.forall_mem_cons.2 ⟨hi, hplaces⟩, ?_⟩
    · rw [hpast, List.map_cons, List.reverse_cons, List.append_assoc,
        ← Scene.exchanges_stable hn rfl]
      rfl
    · intro j p result hj hq
      by_cases hij : i = j
      · subst hij
        cases hp.symm.trans hj
        rw [exchangesOf_cons_self]
        exact ⟨answer, _, rfl, htrace (List.getElem?_set_self hi) hq⟩
      · rw [exchangesOf_cons_of_ne hij]
        exact htrace ((List.getElem?_set_ne hij).trans hj) hq

/-! ## What the loop of a target comes to -/

namespace Retry.Tries

variable {ε α : Type} {s : Schedule} {again : ε → Bool} {body : Nat → Script (Except ε α)} {n : Nat}
  {trials : List (Trial ε α)} {es : List Exchange} {result : Except Stop (Except ε α)}

/-- A loop that ends with an error that is worth another attempt has made all that it may make. -/
theorem length_eq {e : ε} (H : Tries s again body n trials es (.ok (.error e)))
    (hagain : again e = true) (hn : s.maxAttempts ≠ 0 → n < s.maxAttempts) :
    n + trials.length = s.maxAttempts := by
  generalize hresult : (Except.ok (Except.error e) : Except Stop (Except ε α)) = result at H
  induction H with
  | cut => cases hresult
  | ended _ hlast =>
    rw [hlast e hresult.symm] at hagain
    cases hagain
  | spent _ _ hmax hle =>
    have := hn hmax
    rw [List.length_singleton]
    omega
  | again _ _ hmore _ _ ih =>
    have := ih (fun hmax => hmore.resolve_left hmax) hresult
    rw [List.length_cons]
    omega

end Retry.Tries

namespace Target

variable {s : Schedule} {horizon : Nat} {target : Target} {bundle : Bytes} {es : List Exchange}

/-- What becomes of a target, and how its attempts have led to it. -/
inductive Ended (s : Schedule) (target : Target) (bundle : Bytes) (es : List Exchange) :
    Except Error SyncOutcome → Prop
  | good {trials outcome} : Retry.Tries s Error.isConflict (fun _ => (target.syncOnce bundle).run) 0
      trials es (.ok (.ok outcome)) →
    Ended s target bundle es (.ok outcome)
  | error {trials e} : Retry.Tries s Error.isConflict (fun _ => (target.syncOnce bundle).run) 0
      trials es (.ok (.error e)) → e.isConflict = false →
    Ended s target bundle es (.error e)
  /-- All attempts were made, and the last one has met a conflict too. -/
  | exhausted {trials e} : Retry.Tries s Error.isConflict
      (fun _ => (target.syncOnce bundle).run) 0 trials es (.ok (.error e)) → e.isConflict = true →
    trials.length = s.maxAttempts →
    Ended s target bundle es (.error (.conflictExhausted target.operation s.maxAttempts e))
  | panicked {trials text} : Retry.Tries s Error.isConflict (fun _ => (target.syncOnce bundle).run) 0
      trials es (.error (.panicked text)) →
    Ended s target bundle es
      (.error (.task ("task # panicked with message " ++ Text.quoted text)))

theorem ended_of_trace {answer : Except String (Except Error SyncOutcome)}
    (H : (target.sync horizon bundle s).run.Trace es (answer.mapError .panicked)) :
    target.Ended s bundle es (Rotation.joined answer) := by
  obtain ⟨trials, inner, htries, hresult⟩ := Retry.onConflict_tries H
  match answer, inner with
  | .error text, .error why =>
    cases hresult
    exact .panicked htries
  | .error text, .ok result => cases hresult
  | .ok result, .error why => cases hresult
  | .ok result, .ok (.ok outcome) =>
    cases hresult
    exact .good htries
  | .ok result, .ok (.error e) =>
    cases hresult
    show target.Ended s bundle es (.error (Retry.exhausted s target.operation e))
    rw [Retry.exhausted]
    cases hconflict : e.isConflict with
    | false => exact .error htries hconflict
    | true =>
      have hlength := htries.length_eq hconflict Nat.pos_of_ne_zero
      rw [Nat.zero_add] at hlength
      exact .exhausted htries hconflict hlength

end Target

namespace Rotation

/-- The failures of those targets that have failed, in the order of the targets. -/
inductive Failures : List Target → List (Except Error SyncOutcome) → List (Failed Error) → Prop
  | nil : Failures [] [] []
  | good {target targets outcome results failures} : Failures targets results failures →
    Failures (target :: targets) (.ok outcome :: results) failures
  | failed {target targets e results failures} : Failures targets results failures →
    Failures (target :: targets) (.error e :: results)
      ({ kind := target.kind.text, name := target.name, error := e } :: failures)

/-- What a propagation makes of the results of its targets. -/
inductive Sums (targets : List Target) (results : List (Except Error SyncOutcome)) :
    Except Error (List TargetOutcome) → Prop
  | good {outcomes : List TargetOutcome} : targets = outcomes.map (·.target) →
    results = outcomes.map (fun o => .ok o.outcome) → Sums targets results (.ok outcomes)
  | failed {failures : List (Failed Error)} : Failures targets results failures → failures ≠ [] →
    Sums targets results (.error (.propagation failures targets.length))

section Sums

variable {targets : List Target} {results : List (Except Error SyncOutcome)}
  {answer : Except Error (List TargetOutcome)}

theorem failures_filterMap {f : Target × Except Error SyncOutcome → Option (Failed Error)}
    (hok : ∀ target outcome, f (target, .ok outcome) = none)
    (herror : ∀ target e, f (target, .error e) = some ⟨target.kind.text, target.name, e⟩)
    (hlength : results.length = targets.length) :
    Failures targets results ((targets.zip results).filterMap f) := by
  induction targets generalizing results with
  | nil =>
    cases List.length_eq_zero_iff.1 hlength
    exact .nil
  | cons target targets ih =>
    cases results with
    | nil => cases hlength
    | cons result results =>
      have hrest := ih (Nat.succ.inj hlength)
      cases result with
      | ok outcome =>
        rw [List.zip_cons_cons, List.filterMap_cons_none (hok target outcome)]
        exact .good hrest
      | error e =>
        rw [List.zip_cons_cons, List.filterMap_cons_some (herror target e)]
        exact .failed hrest

theorem gather_sums (hlength : results.length = targets.length) :
    Sums targets results (gather (targets.zip results)) := by
  rcases gather_cases (targets.zip results) with ⟨outcomes, hgather, hzip⟩ | ⟨failures, hgather⟩
  · rw [hgather]
    refine .good ?_ ?_
    · rw [← List.map_fst_zip hlength.ge, hzip, List.map_map]
      rfl
    · rw [← List.map_snd_zip hlength.le, hzip, List.map_map]
      rfl
  · rw [hgather]
    rw [gather] at hgather
    dsimp only at hgather
    split at hgather
    · cases hgather
    · rename_i hempty
      cases hgather
      rw [List.length_zip, hlength, Nat.min_self]
      refine .failed ?_ fun h => hempty (by rw [h]; rfl)
      exact failures_filterMap (fun _ _ => rfl) (fun _ _ => rfl) hlength

theorem Failures.eq_nil_iff {failures : List (Failed Error)}
    (H : Failures targets results failures) :
    failures = [] ↔ ∀ result ∈ results, ∃ outcome, result = .ok outcome := by
  induction H with
  | nil => simp
  | good _ ih => simp [ih]
  | failed _ _ => simp

/-- A propagation is good if and only if every target is. -/
theorem Sums.good_iff (H : Sums targets results answer) :
    (∃ outcomes, answer = .ok outcomes) ↔ ∀ result ∈ results, ∃ outcome, result = .ok outcome := by
  cases H with
  | good _ hresults => simp [hresults]
  | failed hfailures hne =>
    refine iff_of_false nofun ?_
    rw [← hfailures.eq_nil_iff]
    exact hne

end Sums

/-! ## All targets together -/

section Propagation

variable {horizon : Nat} {targets : List Target} {bundle : Bytes} {schedule : Schedule}
  {s t : Scene}
  {result : Except Stop (Except Error (List TargetOutcome))}

/-- What a propagation is made of: each target has come to an end by exchanges of its own, and the
answer is made of all these ends. -/
structure Aggregates (schedule : Schedule) (targets : List Target) (bundle : Bytes)
    (turns : List (Nat × Exchange)) (answer : Except Error (List TargetOutcome)) : Prop where
  places : ∀ turn ∈ turns, turn.1 < targets.length
  sums : ∃ results : List (Except Error SyncOutcome), results.length = targets.length ∧
    (∀ {i : Nat} {target : Target} {result : Except Error SyncOutcome}, targets[i]? = some target →
      results[i]? = some result → target.Ended schedule bundle (exchangesOf i turns) result) ∧
    ((∃ outcomes, answer = .ok outcomes) ↔ ∀ result ∈ results, ∃ outcome, result = .ok outcome) ∧
    Sums targets results answer

theorem sync_sleeps {target : Target} : (target.sync horizon bundle schedule).run.Sleeps
    (fun _ => True) (Retry.rounds horizon schedule) := by
  rw [Target.sync_eq]
  refine Retry.onConflict_sleeps fun _ => ?_
  exact (Script.Ends.iff_sleeps.1 (Amendment.attempt_ends _)).weaken fun _ _ => trivial

/-- All targets side by side are unfinished only because one of them is. -/
theorem syncs_unfinished {T : Script.Moves Scene}
    (H : (Script.together (Retry.rounds horizon schedule)
      (targets.map fun target => (target.sync horizon bundle schedule).run)).Follows T s
        (.error .unfinished) t) :
    ∃ qs, Interleaves T (targets.map fun target => (target.sync horizon bundle schedule).run) s qs t ∧
      .stop .unfinished ∈ qs := by
  by_cases hrounds : Retry.rounds horizon schedule = 0
  · -- Nothing is followed at all, not even the first attempt at a target.
    rw [hrounds, Script.together] at H
    cases targets with
    | nil => cases H.1
    | cons target targets =>
      obtain ⟨-, rfl⟩ := H
      refine ⟨_, .rest, ?_⟩
      have hfirst : (target.sync horizon bundle schedule).run = .stop .unfinished := by
        rw [Target.sync_eq, Retry.onConflict, Retry.when, hrounds]
        rfl
      rw [List.map_cons, hfirst]
      exact List.mem_cons_self
  · refine Script.Follows.together_unfinished (b := Retry.rounds horizon schedule) (by omega) ?_ H
    intro p hp
    obtain ⟨target, -, rfl⟩ := List.mem_map.1 hp
    exact sync_sleeps

/-- A propagation, however its targets end. Only where attempts may go on without end need it have
no answer, and then because a target has none. -/
theorem aggregates_of_runs (H : (propagate horizon targets bundle schedule).run.Runs Scene.Outside s
    result t) :
    (schedule.maxAttempts ≠ 0 → ∃ answer, result = .ok answer) ∧
    ∃ turns : List (Nat × Exchange),
      t.past.exchanges = (turns.map (·.2)).reverse ++ s.past.exchanges ∧
      ((∃ answer, result = .ok answer ∧ Aggregates schedule targets bundle turns answer) ∨
        result = .error .unfinished ∧ ∃ (i : Nat) (target : Target), targets[i]? = some target ∧
          (target.sync horizon bundle schedule).run.Trace (exchangesOf i turns)
            (.error .unfinished)) := by
  have hscript {i : Nat} {target : Target} (h : targets[i]? = some target) :
      (targets.map fun target => (target.sync horizon bundle schedule).run)[i]? =
        some (target.sync horizon bundle schedule).run := by
    rw [List.getElem?_map, h, Option.map_some]
  rcases H.bind with ⟨why, rfl, htogether⟩ | ⟨answers, m, htogether, rfl, hout⟩
  · obtain ⟨m, hfollows, hm⟩ := htogether.follows
    obtain ⟨-, -, ⟨_, h, -⟩ | h⟩ := hfollows.together
    · cases h
    · cases h
      refine ⟨fun hattempts => absurd rfl ((syncs_finish hattempts).not_unfinished hfollows), ?_⟩
      obtain ⟨qs, hsteps, hstop⟩ := syncs_unfinished hfollows
      obtain ⟨turns, hpast, hplaces, htrace⟩ := hsteps.turns
      obtain ⟨i, hi⟩ := List.mem_iff_getElem?.1 hstop
      have hlt : i < targets.length := by
        have := (List.getElem?_eq_some_iff.1 hi).1
        rwa [hsteps.length_eq, List.length_map] at this
      have htarget := List.getElem?_eq_getElem hlt
      have hi : qs[i]? = some (ofResult (.error .unfinished)) := hi
      refine ⟨turns, ?_, .inr ⟨rfl, i, _, htarget, htrace (hscript htarget) hi⟩⟩
      rw [Scene.exchanges_stable hm rfl, hpast]
  · refine ⟨fun _ => ⟨_, rfl⟩, ?_⟩
    obtain ⟨n, hfollows, hn⟩ := htogether.follows
    obtain ⟨qs, hsteps, ⟨answers', h, rfl⟩ | h⟩ := hfollows.together
    case inr => cases h
    cases h
    obtain ⟨turns, hpast, hplaces, htrace⟩ := hsteps.turns
    have hlength : (answers.map joined).length = targets.length := by
      have hsame := hsteps.length_eq
      rw [List.length_map, List.length_map] at hsame
      rw [List.length_map, hsame]
    have hsums := gather_sums hlength
    refine ⟨turns, ?_, .inl ⟨_, rfl, ?_, answers.map joined, hlength, ?_, hsums.good_iff, hsums⟩⟩
    · rw [Scene.exchanges_stable hout rfl, Scene.exchanges_stable hn rfl, hpast]
    · rwa [List.length_map] at hplaces
    · intro i target result htarget hresult
      rw [List.getElem?_map] at hresult
      obtain ⟨answer, hanswer, rfl⟩ := Option.map_eq_some_iff.1 hresult
      refine Target.ended_of_trace (htrace (hscript htarget) ?_)
      rw [List.getElem?_map, hanswer, Option.map_some]

end Propagation

end Rotation

/-! ## How many targets were written -/

/-- A replacement of a webhook configuration that went well. -/
def Exchange.hands : Exchange → Bool
  | ⟨.store (.webhook _) (.replace _), .ok (.ok _)⟩ => true
  | _ => false

/-- The request does not create a webhook configuration. -/
def Request.CreatesNoTarget : Request → Prop
  | .store (.webhook _) (.create _) => False
  | _ => True

namespace Request

theorem ReadsOnly.createsNoTarget {r : Request} (h : r.ReadsOnly) : r.CreatesNoTarget := by
  match r with
  | .store (.webhook _) (.create _) => cases h
  | .store (.webhook _) (.get _) | .store (.webhook _) (.replace _) => trivial
  | .store .secret _ => trivial
  | .now | .generate _ | .chance | .report _ | .sleep _ => trivial

theorem Idle.createsNoTarget {r : Request} (h : r.Idle) : r.CreatesNoTarget := by
  cases r with
  | store => exact h.elim
  | _ => trivial

theorem Within.createsNoTarget {name : String} {r : Request}
    (h : r.Within fun k other => k = .secret ∧ other = name) : r.CreatesNoTarget := by
  cases r with
  | store k c =>
    obtain ⟨rfl, -⟩ := h
    trivial
  | _ => trivial

/-- Where no target is created, those that are written are replaced. -/
theorem countP_landed {r : Request} {answer : Except String r.Answer} (h : r.CreatesNoTarget) :
    (r.landed answer).countP (·.1 ≠ .secret) = if Exchange.hands ⟨r, answer⟩ then 1 else 0 := by
  match r, answer with
  | .store .secret c, answer =>
    rw [landed]
    split <;> rfl
  | .store (.webhook kind) (.replace x), .ok (.ok y) => rfl
  | .store (.webhook kind) (.replace x), .ok (.error e) => rfl
  | .store (.webhook kind) (.replace x), .error text => rfl
  | .store (.webhook kind) (.get name), answer =>
    rw [landed_of_not_wrote (ReadsOnly.not_wrote (r := .store (.webhook kind) (.get name)) rfl)]
    rfl
  | .store (.webhook kind) (.create x), _ => exact h.elim
  | .now, _ | .generate _, _ | .chance, _ | .report _, _ | .sleep _, _ => rfl

end Request

theorem History.countP_written {past : History}
    (H : past.Every fun r _ => r.CreatesNoTarget) :
    past.written.countP (·.1 ≠ .secret) = past.exchanges.countP Exchange.hands := by
  induction past with
  | nil => rfl
  | cons e past ih =>
    cases e with
    | deed k d => exact ih (every_deed.1 H)
    | request before r answer =>
      obtain ⟨h, H⟩ := every_request.1 H
      rw [written, exchanges, List.countP_append, List.countP_cons, Request.countP_landed h, ih H,
        Nat.add_comm]

namespace Rotation

variable {horizon : Nat} {targets : List Target} {bundle : Bytes} {schedule : Schedule}
  {c : Controller} {s t : Scene}

theorem sync_createsNoTarget {target : Target} :
    (target.sync horizon bundle schedule).run.Asks Request.CreatesNoTarget := by
  refine Retry.onConflict_asks Request.Idle.createsNoTarget fun _ => ?_
  refine Asks.attempt (Asks.request trivial) fun found => ?_
  cases found with
  | none => trivial
  | some config =>
    dsimp only
    split
    · trivial
    · exact Asks.attempt (Asks.request trivial) fun _ => trivial

theorem propagate_createsNoTarget :
    (propagate horizon targets bundle schedule).run.Asks Request.CreatesNoTarget := by
  refine (Asks.together fun p hp => ?_).bind fun _ => trivial
  obtain ⟨target, -, rfl⟩ := List.mem_map.1 hp
  exact sync_createsNoTarget

theorem pass_createsNoTarget : (pass horizon c).run.Asks Request.CreatesNoTarget := by
  have hreads {r : Request} (h : r.ReadsOnly) : r.CreatesNoTarget := h.createsNoTarget
  rw [pass_eq]
  exact (now_asks.mono fun _ => hreads).attempt fun _ =>
    (load_asks.mono fun _ => hreads).attempt fun _ =>
    (choose_asks.mono fun _ => hreads).attempt fun _ =>
    propagate_createsNoTarget.attempt fun _ =>
    (persist_asks.mono fun _ h => h.createsNoTarget).attempt fun _ =>
    (withdraw_asks.mono fun _ h => h.createsNoTarget).attempt fun _ => trivial

theorem countP_writes (written : Written) (name : String) :
    (written.writes name).countP (·.1 ≠ .secret) = 0 := by
  cases written <;> rfl

theorem countP_leaf (leaf : Option LeafChange) (name : String) :
    (leaf.elim [] (·.writes name)).countP (·.1 ≠ .secret) = 0 := by
  cases leaf with
  | none => rfl
  | some change => cases change <;> rfl

theorem Trusted.countP_written {R : Scene → Scene → Prop} {a : Authority} {d : Duration}
    {regenerated : Option RegenerateReason} {outcomes : List TargetOutcome}
    (H : Trusted R horizon c s a d regenerated outcomes t) :
    t.past.written.countP (·.1 ≠ .secret) = (outcomes.filter (·.outcome = .updated)).length := by
  cases H with
  | intro _ _ _ htended =>
    rw [htended.written.countP_eq, List.map_map, List.countP_map, ← List.countP_eq_length.2]
    · intro _ _
      rfl

/-- A good pass tells how many targets it has written. -/
theorem countP_hands_of_pass {report : PassReport} (hpast : s.past = [])
    (H : (pass horizon c).run.Runs Scene.Outside s (.ok (.ok report)) t) :
    t.past.exchanges.countP Exchange.hands = report.targetsUpdated := by
  have hevery : t.past.Every fun r _ => r.CreatesNoTarget := by
    refine Scene.every_keeps pass_createsNoTarget (fun _ _ h => h) ?_ H
    show s.past.Every _
    rw [hpast]
    exact History.every_nil
  have hfootprint : Footprint Scene.Outside horizon c s (.ok (.ok report)) t :=
    footprint_of_runs (hpast ▸ History.every_nil) (hpast ▸ rfl) H
  rw [← History.countP_written hevery]
  generalize hresult : (.ok (.ok report) : Except Stop (Except Error PassReport)) = result
    at hfootprint
  cases hfootprint with
  | @good _ _ m _ _ htrusted _ _ hwritten _ =>
    cases hresult
    rw [hwritten, List.countP_append, List.countP_append, countP_leaf, countP_writes,
      htrusted.countP_written, Nat.zero_add, Nat.zero_add, PassReport.targetsUpdated]
  | @unread f | @unmade f | @unspread f | @unstored f | @unwithdrawn f =>
    exact absurd ⟨report, hresult.symm⟩ f.not_wentWell

/-- Each target of a propagation comes to its own end, and the answer is the sum of these ends; a
good pass counts those targets that it has written. -/
theorem propagation_adds_up :
    (∀ {horizon : Nat} {targets : List Target} {bundle : Bytes} {schedule : Schedule} {s t : Scene}
        {result : Except Stop (Except Error (List TargetOutcome))},
      (propagate horizon targets bundle schedule).run.Runs Scene.Outside s result t →
      (schedule.maxAttempts ≠ 0 → ∃ answer, result = .ok answer) ∧
      ∃ turns : List (Nat × Exchange),
        t.past.exchanges = (turns.map (·.2)).reverse ++ s.past.exchanges ∧
        ((∃ answer, result = .ok answer ∧ Aggregates schedule targets bundle turns answer) ∨
          result = .error .unfinished ∧ ∃ (i : Nat) (target : Target), targets[i]? = some target ∧
            (target.sync horizon bundle schedule).run.Trace (exchangesOf i turns)
              (.error .unfinished))) ∧
    ∀ {horizon : Nat} {c : Controller} {s t : Scene} {report : PassReport}, s.past = [] →
      (pass horizon c).run.Runs Scene.Outside s (.ok (.ok report)) t →
      t.past.exchanges.countP Exchange.hands = report.targetsUpdated :=
  ⟨aggregates_of_runs, countP_hands_of_pass⟩

/-- One configuration can be written, one cannot be read, and one is always written by others just
before. -/
def mixed : World Cluster where
  env := { clock := ⟨0, 0⟩, source := .queue [] }
  objects :=
    { mutating :=
        { store := .filled [Sample.configuration "open", Sample.configuration "broken"]
          weather := { reads := [.calm, .panic "lost"] } }
      validating :=
        { store := .filled [Sample.configuration "contested"]
          weather := { otherWrites := .fail (.api 409 "Conflict") } } }

theorem sound_mixed (k : Kind) : (mixed.objects.stores k).Sound := by
  match k with
  | .secret => exact Store.sound_empty
  | .webhook .mutating | .webhook .validating => exact Store.sound_filled _

/-- Besides those in the world, there is a target that does not exist. -/
def mixedTargets : List Target :=
  [⟨.mutating, "open"⟩, ⟨.mutating, "broken"⟩, ⟨.validating, "contested"⟩, ⟨.mutating, "absent"⟩]

/-- The names of those that failed, and of how many. -/
def failedNames : Except Stop (Except Error (List TargetOutcome)) → Option (List String × Nat)
  | .ok (.error (.propagation failures n)) => some (failures.map (·.name), n)
  | _ => none

/-- All targets but one fail, each in its own way; and a good pass writes both of its targets. -/
theorem mixed_propagation_adds_up :
    (∃ s t answer turns, failedNames (.ok answer) = some (["broken", "contested", "absent"], 4) ∧
      (propagate 1 mixedTargets [1] .onConflict).run.Runs Scene.Outside s (.ok answer) t ∧
      t.past.exchanges = (turns.map (·.2)).reverse ++ s.past.exchanges ∧
      Aggregates .onConflict mixedTargets [1] turns answer) ∧
    ∃ s t report, s.past = [] ∧
      (pass 1 Sample.controller).run.Runs Scene.Outside s (.ok (.ok report)) t ∧
      report.targetsUpdated = 2 ∧ t.past.exchanges.countP Exchange.hands = 2 := by
  constructor
  · have hnames : failedNames ((propagate 1 mixedTargets [1] .onConflict).run.run World.logged
        (mixed, [])).1 = some (["broken", "contested", "absent"], 4) := by decide +kernel
    obtain ⟨sound, hrun⟩ :=
      World.runs_outside (propagate 1 mixedTargets [1] .onConflict).run
    obtain ⟨hanswer, turns, hpast, haggregates⟩ := propagation_adds_up.1 hrun
    obtain ⟨answer, hanswer⟩ := hanswer (by decide)
    rw [hanswer] at hnames hrun haggregates
    rcases haggregates with ⟨_, h, haggregates⟩ | ⟨h, -⟩
    · cases h
      exact ⟨mixed.scene sound_mixed [], _, answer, turns, hnames, hrun, hpast, haggregates⟩
    · cases h
  · have hend : EndsIn (fun report : PassReport => report.targetsUpdated = 2)
        (Sample.pass (contended, [])).1 := by decide +kernel
    obtain ⟨sound, hrun⟩ := Sample.pass_outside contended [] (Sample.sound rfl)
    obtain ⟨report, hreport, hupdated⟩ := hend.exists
    rw [hreport] at hrun
    have hcount := propagation_adds_up.2 rfl hrun
    exact ⟨_, _, report, rfl, hrun, hupdated, hcount.trans hupdated⟩

end Rotation

end TrustAnchor
