import TrustAnchor.Proofs.Amendment
import TrustAnchor.Proofs.Injection
import TrustAnchor.Rotation.Pass

/-! The steps of a pass: which objects each of them is about, and the three amendments that the
pass is made of, those of a target, of the stored authority and of the issued certificate. -/

namespace TrustAnchor

open Script (Attempt)

namespace Rotation

/-- Creating or updating an object. -/
def creation (k : Kind) (name : String) (namespaceName : Option String)
    (change : k.Object → k.Object)
    (hchange : ∀ x, Resource.metadata (change x) = Resource.metadata x) :
    Amendment k name Written where
  plan
    | none => .write (change (Resource.named name namespaceName)) .created
    | some found =>
      if change found = found then .finish (.ok .unchanged) else .write (change found) .updated
  anyName h := by
    cases h
    exact (Resource.anyName_of_metadata (hchange _)).trans Resource.anyName_named
  metadata {y x b} h := by
    dsimp only at h
    split at h
    · cases h
    · cases h
      exact hchange y

section Plans

variable {k : Kind} {name : String} {namespaceName : Option String} {change : k.Object → k.Object}
  {hchange : ∀ x, Resource.metadata (change x) = Resource.metadata x} {found : Option k.Object}
  {x : k.Object} {result : Except Error Written} {written : Written}

theorem creation_finish
    (h : (creation k name namespaceName change hchange).plan found = .finish result) :
    ∃ x, found = some x ∧ change x = x ∧ result = .ok .unchanged := by
  cases found with
  | none => cases h
  | some x =>
    simp only [creation] at h
    split at h
    · rename_i hsame
      cases h
      exact ⟨x, rfl, hsame, rfl⟩
    · cases h

theorem creation_write
    (h : (creation k name namespaceName change hchange).plan found = .write x written) :
    found = none ∧ x = change (Resource.named name namespaceName) ∧ written = .created ∨
      ∃ y, found = some y ∧ change y ≠ y ∧ x = change y ∧ written = .updated := by
  cases found with
  | none =>
    cases h
    exact .inl ⟨rfl, rfl, rfl⟩
  | some y =>
    simp only [creation] at h
    split at h
    · cases h
    · rename_i hother
      cases h
      exact .inr ⟨y, rfl, hother, rfl, rfl⟩

end Plans

theorem createOrUpdate_eq {k : Kind} {name : String} {namespaceName : Option String}
    {change : k.Object → k.Object}
    (hchange : ∀ x, Resource.metadata (change x) = Resource.metadata x) :
    createOrUpdate k name namespaceName change =
      (creation k name namespaceName change hchange).attempt := by
  refine congrArg (Script.get k name >>= ·) (funext fun found => ?_)
  cases found with
  | none => rfl
  | some found =>
    simp only [creation]
    split <;> rfl

theorem metadata_holding {a : Authority} (x : Secret) :
    Resource.metadata (x.holding a) = Resource.metadata x := rfl

/-- Storing an authority in the secret of a name. -/
def storing (name namespaceName : String) (a : Authority) : Amendment .secret name Written :=
  creation .secret name (some namespaceName) (Secret.holding a) metadata_holding

theorem persist_eq {horizon : Nat} {name namespaceName : String} {a : Authority} {s : Schedule} :
    (persist horizon name namespaceName a s).run =
      Retry.onConflict horizon s "persist_ca_secret" fun _ =>
        (storing name namespaceName a).attempt.run :=
  congrArg (fun body => Retry.onConflict horizon s _ fun _ : Nat => body)
    (createOrUpdate_eq metadata_holding)

/-- Emptying a secret. -/
def clearing (name : String) : Amendment .secret name LeafChange where
  plan
    | none => .finish (.ok .absent)
    | some x => if x.hasContent then .write x.cleared .cleared else .finish (.ok .alreadyEmpty)
  anyName h := by cases h
  metadata {y x b} h := by
    dsimp only at h
    split at h
    · cases h
      rfl
    · cases h

theorem clearSecret_eq {name : String} : clearSecret name = (clearing name).attempt := by
  refine congrArg (Script.get .secret name >>= ·) (funext fun found => ?_)
  cases found with
  | none => rfl
  | some x =>
    simp only [clearing]
    cases x.hasContent <;> rfl

theorem invalidateLeaf_eq {horizon : Nat} {name : String} {s : Schedule} :
    (invalidateLeaf horizon name s).run = (do
      let result ← Retry.onConflict horizon s "invalidate_leaf_secret" fun _ =>
        (clearing name).attempt.run
      return result.mapError (.cascade name)) := by
  rw [← clearSecret_eq]
  rfl

end Rotation

/-- Bringing the bundle to a target. -/
def Target.syncing (t : Target) (bundle : Bytes) :
    Amendment (.webhook t.kind) t.name SyncOutcome where
  plan
    | none => .finish (.error (.missingResource (.webhook t.kind) t.name))
    | some config =>
      if (config.inject bundle).2 then .write (config.inject bundle).1 .updated
      else .finish (.ok .unchanged)
  anyName h := by cases h
  metadata {y x b} h := by
    dsimp only at h
    split at h
    · cases h
      exact WebhookConfiguration.metadata_inject
    · cases h

theorem Target.syncOnce_eq {t : Target} {bundle : Bytes} :
    t.syncOnce bundle = (t.syncing bundle).attempt := by
  refine congrArg (Script.get (.webhook t.kind) t.name >>= ·) (funext fun found => ?_)
  cases found with
  | none => rfl
  | some config =>
    simp only [syncing]
    cases (config.inject bundle).2 <;> rfl

theorem Target.sync_eq {horizon : Nat} {bundle : Bytes} {s : Schedule} {t : Target} :
    (t.sync horizon bundle s).run =
      Retry.onConflict horizon s t.operation fun _ => (t.syncing bundle).attempt.run := by
  rw [← syncOnce_eq]
  rfl

namespace Rotation

/-- The last step of a pass: the issued certificate is withdrawn if the authority was replaced. -/
def withdraw (horizon : Nat) (c : Controller) : Written → Attempt (Option LeafChange)
  | .updated => do
    let change ← invalidateLeaf horizon c.leafSecret c.schedule
    return some change
  | .created | .unchanged => pure none

theorem pass_eq (horizon : Nat) (c : Controller) : pass horizon c = (do
    let now ← Script.request .now
    let found ← load c.caSecret c.reader
    let (a, regenerated, requeueAfter) ← choose found now
    let propagated ← propagate horizon c.targets a.bundle c.schedule
    let persistence ← persist horizon c.caSecret c.namespaceName a c.schedule
    let leaf ← withdraw horizon c persistence
    return { requeueAfter, persistence, regenerated, leaf, propagated }) := by
  refine congrArg (_ >>= ·) (funext fun now => congrArg (_ >>= ·) (funext fun found =>
    congrArg (_ >>= ·) (funext fun (a, regenerated, requeueAfter) => congrArg (_ >>= ·)
      (funext fun propagated => congrArg (_ >>= ·) (funext fun persistence => ?_)))))
  cases persistence with
  | updated =>
    rw [withdraw, ← map_eq_pure_bind]
    rfl
  | created => rfl
  | unchanged => rfl

/-! ## What the steps ask for -/

variable {horizon : Nat} {name namespaceName : String} {now : Instant} {a : Authority}
  {schedule : Schedule} {bundle : Bytes} {targets : List Target} {found : Option Authority}
  {reader : Authority.Reader}

theorem asks_ofExcept {P : Request → Prop} {α : Type} (result : Except Error α) :
    (ofExcept result : Attempt α).run.Asks P := by
  cases result <;> trivial

section Reads

variable {P : Request → Prop}

theorem now_asks_of (h : P .now) :
    (liftM (Script.request .now) : Attempt Instant).run.Asks P := by
  refine ⟨h, fun answer _ => ?_⟩
  cases answer <;> trivial

theorem load_asks_of (h : P (.store .secret (.get name))) : (load name reader).run.Asks P := by
  refine (Script.Asks.request h).attempt fun found => ?_
  cases found with
  | none => trivial
  | some secret => exact asks_ofExcept _

theorem generate_asks_of (h : P (.generate now)) : (generate now).run.Asks P := by
  refine ⟨h, fun answer _ => ?_⟩
  match answer with
  | .error text => trivial
  | .ok (.error e) => trivial
  | .ok (.ok a) =>
    exact (asks_ofExcept _).attempt fun _ => (asks_ofExcept _).attempt fun _ => trivial

theorem choose_asks_of (h : P (.generate now)) : (choose found now).run.Asks P := by
  rw [choose]
  split
  · trivial
  · exact (generate_asks_of h).attempt fun _ => trivial

end Reads

theorem now_asks : (liftM (Script.request .now) : Attempt Instant).run.Asks Request.ReadsOnly :=
  now_asks_of trivial

theorem load_asks : (load name reader).run.Asks Request.ReadsOnly := load_asks_of rfl

theorem generate_asks : (generate now).run.Asks Request.ReadsOnly := generate_asks_of trivial

theorem choose_asks : (choose found now).run.Asks Request.ReadsOnly := choose_asks_of trivial

theorem persist_asks : (persist horizon name namespaceName a schedule).run.Asks
    (Request.Within fun k other => k = .secret ∧ other = name) := by
  rw [persist_eq]
  exact Retry.onConflict_asks Request.Idle.within fun _ => Amendment.asks _

theorem invalidateLeaf_asks : (invalidateLeaf horizon name schedule).run.Asks
    (Request.Within fun k other => k = .secret ∧ other = name) := by
  rw [invalidateLeaf_eq]
  exact (Retry.onConflict_asks Request.Idle.within fun _ => Amendment.asks _).bind fun _ => trivial

theorem withdraw_asks {c : Controller} {persistence : Written} :
    (withdraw horizon c persistence).run.Asks
      (Request.Within fun k other => k = .secret ∧ other = c.leafSecret) := by
  cases persistence with
  | updated => exact invalidateLeaf_asks.attempt fun _ => trivial
  | created => trivial
  | unchanged => trivial

theorem sync_asks {t : Target} : (t.sync horizon bundle schedule).run.Asks
    (Request.Within fun k other => k = .webhook t.kind ∧ other = t.name) := by
  rw [Target.sync_eq]
  exact Retry.onConflict_asks Request.Idle.within fun _ => Amendment.asks _

theorem propagate_asks : (propagate horizon targets bundle schedule).run.Asks
    (Request.Within fun k _ => k ≠ .secret) := by
  refine (Script.Asks.together fun p hp => ?_).bind fun _ => trivial
  obtain ⟨t, -, rfl⟩ := List.mem_map.1 hp
  refine sync_asks.mono fun r hr => ?_
  cases r with
  | store k c =>
    obtain ⟨rfl, -⟩ := hr
    nofun
  | _ => trivial

/-! ## How the steps come to a result -/

section Runs

variable {R : Scene → Scene → Prop} {s t : Scene}

theorem ofExcept_runs {α : Type} {result : Except Error α} {x : α}
    (H : (ofExcept result : Attempt α).run.Runs R s (.ok (.ok x)) t) : result = .ok x ∧ R s t := by
  cases result with
  | error e => cases H.1
  | ok y =>
    cases H.1
    exact ⟨rfl, H.2⟩

theorem now_runs {now : Instant}
    (H : (liftM (Script.request .now) : Attempt Instant).run.Runs R s (.ok (.ok now)) t) :
    ∃ m stores, R s m ∧ ∃ h : m.Answers .now (.ok now) stores, R (m.after h) t := by
  obtain ⟨m, answer, stores, hm, h, H⟩ := H
  cases answer with
  | error text => cases H.1
  | ok now' =>
    cases H.1
    exact ⟨m, stores, hm, h, H.2⟩

variable [IsPreorder Scene R]

/-- What is loaded is the authority in the secret as it was found. -/
theorem load_runs (H : (load name reader).run.Runs R s (.ok (.ok found)) t) :
    ∃ m x stores, R s m ∧ ∃ h : m.Answers (.store .secret (.get name)) (.ok (.ok x)) stores,
      R (m.after h) t ∧ Authority.ofEntries (x.bind Secret.data) reader = .ok found := by
  obtain ⟨x, n, hget, H⟩ := H.attempt_ok
  obtain ⟨m, answer, stores, hm, h, hn, hanswer⟩ := Script.Runs.request hget
  cases answer with
  | error text => cases hanswer
  | ok answer =>
    cases hanswer
    cases x with
    | none =>
      cases H.1
      exact ⟨m, none, stores, hm, h, trans_of R hn H.2, rfl⟩
    | some secret =>
      obtain ⟨hentries, hR⟩ := ofExcept_runs H
      refine ⟨m, some secret, stores, hm, h, trans_of R hn hR, ?_⟩
      show Authority.ofEntries secret.data reader = _
      cases hofEntries : Authority.ofEntries secret.data reader with
      | error e =>
        rw [hofEntries] at hentries
        cases hentries
      | ok a =>
        rw [hofEntries] at hentries
        cases hentries
        rfl

/-- A new authority is what was answered when one was asked for. -/
theorem generate_runs {validity : Duration}
    (H : (generate now).run.Runs R s (.ok (.ok (a, validity))) t) :
    ∃ m stores, R s m ∧ ∃ h : m.Answers (.generate now) (.ok (.ok a)) stores, R (m.after h) t := by
  obtain ⟨m, answer, stores, hm, h, H⟩ := H
  match answer with
  | .error text => cases H.1
  | .ok (.error e) => cases H.1
  | .ok (.ok b) =>
    refine ⟨m, stores, hm, ?_⟩
    obtain ⟨c, n, hauthority, H⟩ := Script.Runs.attempt_ok H
    obtain ⟨validity', n', hvalidity, H⟩ := H.attempt_ok
    obtain ⟨hc, hn⟩ := ofExcept_runs hauthority
    cases hc
    cases H.1
    exact ⟨h, trans_of R (trans_of R hn (ofExcept_runs hvalidity).2) H.2⟩

/-- The authority is the one that was found, if it has not expired, or else a new one. -/
theorem choose_runs {regenerated : Option RegenerateReason} {requeueAfter : Duration}
    (H : (choose found now).run.Runs R s (.ok (.ok (a, regenerated, requeueAfter))) t) :
    Decision.at found now = .keep a requeueAfter ∧ regenerated = none ∧ R s t ∨
      ∃ reason, Decision.at found now = .regenerate reason ∧ regenerated = some reason ∧
        ∃ m stores, R s m ∧ ∃ h : m.Answers (.generate now) (.ok (.ok a)) stores,
          R (m.after h) t := by
  rw [choose] at H
  split at H
  · rename_i hkeep
    cases H.1
    exact .inl ⟨hkeep, rfl, H.2⟩
  · rename_i reason hreason
    obtain ⟨⟨b, validity⟩, n, hgenerate, H⟩ := H.attempt_ok
    cases H.1
    obtain ⟨m, stores, hm, h, hn⟩ := generate_runs hgenerate
    exact .inr ⟨reason, hreason, rfl, m, stores, hm, h, trans_of R hn H.2⟩

/-- A good pass, step by step. -/
theorem pass_runs {c : Controller} {report : PassReport}
    (H : (pass horizon c).run.Runs R s (.ok (.ok report)) t) :
    ∃ now found a m₁ m₂ m₃ m₄ m₅,
      (liftM (Script.request .now) : Attempt Instant).run.Runs R s (.ok (.ok now)) m₁ ∧
      (load c.caSecret c.reader).run.Runs R m₁ (.ok (.ok found)) m₂ ∧
      (choose found now).run.Runs R m₂ (.ok (.ok (a, report.regenerated, report.requeueAfter))) m₃ ∧
      (propagate horizon c.targets a.bundle c.schedule).run.Runs R m₃
        (.ok (.ok report.propagated)) m₄ ∧
      (persist horizon c.caSecret c.namespaceName a c.schedule).run.Runs R m₄
        (.ok (.ok report.persistence)) m₅ ∧
      (withdraw horizon c report.persistence).run.Runs R m₅ (.ok (.ok report.leaf)) t := by
  rw [pass_eq] at H
  obtain ⟨now, m₁, hnow, H⟩ := H.attempt_ok
  obtain ⟨found, m₂, hload, H⟩ := H.attempt_ok
  obtain ⟨⟨a, regenerated, requeueAfter⟩, m₃, hchoose, H⟩ := H.attempt_ok
  obtain ⟨propagated, m₄, hpropagate, H⟩ := H.attempt_ok
  obtain ⟨persistence, m₅, hpersist, H⟩ := H.attempt_ok
  obtain ⟨leaf, m₆, hwithdraw, H⟩ := H.attempt_ok
  cases H.1
  exact ⟨now, found, a, m₁, m₂, m₃, m₄, m₅, hnow, hload, hchoose, hpropagate, hpersist,
    hwithdraw.after H.2⟩

end Runs

end Rotation

end TrustAnchor
