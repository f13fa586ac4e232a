import TrustAnchor.Proofs.Landing
import TrustAnchor.Proofs.Operations

/-! How the writes of the controller go together with those of others. An object is replaced only as
it is stored at that very moment, and then all of it is kept but the part that is the controller's
own; whatever is replaced was found by a read of the same attempt, and no version is given twice. So
none of others' writes is lost, wherever it comes between the requests of the controller. -/

namespace TrustAnchor

open Scene (Outside)
open Script (Attempt Runs Keeps Stable Steps)

namespace Controller

/-- The objects that the controller looks after. -/
def Tends (c : Controller) : Kind → String → Prop
  | .secret, name => name = c.caSecret ∨ name = c.leafSecret
  | .webhook kind, name => ⟨kind, name⟩ ∈ c.targets

/-- What the controller may make of an object that is stored: of a target, the same with a bundle;
of the secret of the authority, the same with other entries; of the secret of the issued
certificate, the same with none. -/
inductive Amends (c : Controller) : (k : Kind) → (stored new : k.Object) → Prop
  | trusting {t : Target} {x : WebhookConfiguration} (bundle : Bytes) :
    t ∈ c.targets → Resource.anyName x = t.name →
    Amends c (.webhook t.kind) x { x with
      webhooks := x.webhooks.map (List.map (Webhook.trusting bundle)) }
  | holding {x : Secret} (a : Authority) : Resource.anyName x = c.caSecret →
    Amends c .secret x { x with data := some a.toEntries, stringData := none }
  | cleared {x : Secret} : Resource.anyName x = c.leafSecret →
    Amends c .secret x { x with data := some .empty, stringData := none }

/-- What the controller may create: the secret of the authority, with the entries of an authority
or, where it may be left `blank`, without any. -/
inductive Creates (c : Controller) (blank : Prop) : (k : Kind) → (new : k.Object) → Prop
  | holding (a : Authority) : Creates c blank .secret {
      metadata := { name := some c.caSecret, namespaceName := some c.namespaceName }
      data := some a.toEntries }
  | empty : blank → Creates c blank .secret {
      metadata := { name := some c.caSecret, namespaceName := some c.namespaceName } }

variable {c : Controller} {blank : Prop} {k : Kind} {x y : k.Object}

theorem Amends.metadata (H : c.Amends k x y) : Resource.metadata y = Resource.metadata x := by
  cases H with
  | trusting | holding | cleared => rfl

theorem Amends.tends (H : c.Amends k x y) : c.Tends k (Resource.anyName x) := by
  cases H with
  | trusting bundle ht hname => rwa [hname]
  | holding a hname => exact .inl hname
  | cleared hname => exact .inr hname

theorem Creates.on_authority (H : c.Creates blank k x) :
    k = .secret ∧ Resource.anyName x = c.caSecret := by
  cases H with
  | holding | empty => exact ⟨rfl, rfl⟩

theorem Creates.tends (H : c.Creates blank k x) : c.Tends k (Resource.anyName x) := by
  obtain ⟨rfl, hname⟩ := H.on_authority
  exact .inl hname

end Controller

/-! ## What may happen -/

/-- What a request of the controller may do to the stores that it meets. -/
inductive Deals (c : Controller) (blank : Prop) (s : Scene) :
    (r : Request) → Except String r.Answer → Stores → Prop
  | quiet {r : Request} {answer : Except String r.Answer} {stores : Stores} :
    ¬ r.Wrote answer → s.stores.Alike stores → Deals c blank s r answer stores
  | replaced {k : Kind} {x y : k.Object} {stores : Stores} :
    s.object k (Resource.anyName x) = some x → c.Amends k x y → s.stores.Gains k y stores →
    Deals c blank s (.store k (.replace y))
      (.ok (.ok (Resource.withVersion y (s.stores k).nextVersion))) stores
  | created {k : Kind} {x : k.Object} {stores : Stores} :
    s.object k (Resource.anyName x) = none → c.Creates blank k x → s.stores.Gains k x stores →
    Deals c blank s (.store k (.create x))
      (.ok (.ok (Resource.withVersion x (s.stores k).nextVersion))) stores

/-- One thing that may happen: another writer's deed, a request of the controller that is answered,
or the passing of time. -/
inductive Happens (c : Controller) (blank : Prop) (s t : Scene) : Prop
  | deed {k : Kind} {d : Deed k.Object} : t = s.suffer k d → Happens c blank s t
  | request {r : Request} {answer : Except String r.Answer} {stores : Stores}
    (H : s.Answers r answer stores) : t = s.after H → Deals c blank s r answer stores →
    Happens c blank s t
  | time {now : Instant} : t = { s with clock := now } → Happens c blank s t

/-- Any number of things that may happen. -/
abbrev Course (c : Controller) (blank : Prop) : Scene → Scene → Prop :=
  Relation.ReflTransGen (Happens c blank)

variable {c : Controller} {blank : Prop} {s m t : Scene}

theorem course_of_outside (H : Outside s t) : Course c blank s t := by
  induction H with
  | refl => exact .refl
  | tail _ hdeed ih =>
    obtain ⟨k, d, rfl⟩ := hdeed
    exact ih.tail (.deed rfl)

theorem course_stable : Stable Outside (Course c blank s) := fun _ _ hout hs =>
  Relation.ReflTransGen.trans hs (course_of_outside hout)

/-! ## What has been seen -/

/-- The object was stored at some time, under its own name. -/
def Scene.Seen (s : Scene) (k : Kind) (x : k.Object) : Prop :=
  ∃ store : Store k.Object, store.Sound ∧
    store.objects.get? (Resource.anyName x) = some x ∧ store.Drift (s.stores k)

theorem Scene.Seen.drift {k : Kind} {x : k.Object} (H : s.Seen k x)
    (hdrift : (s.stores k).Drift (t.stores k)) : t.Seen k x := by
  obtain ⟨store, hsound, hx, H⟩ := H
  exact ⟨store, hsound, hx, H.trans hdrift⟩

/-- What is found at the version of an object that was seen is this object. -/
theorem Scene.Seen.eq {k : Kind} {x y : k.Object} (H : s.Seen k x)
    (hy : s.object k (Resource.anyName x) = some y)
    (hversion : Resource.version x = Resource.version y) : y = x := by
  obtain ⟨store, hsound, hx, hdrift⟩ := H
  exact hdrift.eq_of_version hsound hx hy hversion

/-- The request writes only what the controller may make of objects that were seen, or may
create. -/
def Request.Proper (c : Controller) (blank : Prop) (seen : (k : Kind) → k.Object → Prop) :
    Request → Prop
  | .store k (.create x) => c.Creates blank k x
  | .store k (.replace y) => ∃ x, seen k x ∧ c.Amends k x y
  | _ => True

theorem Request.ReadsOnly.proper {seen : (k : Kind) → k.Object → Prop} {r : Request}
    (h : r.ReadsOnly) : r.Proper c blank seen := by
  match r with
  | .store k (.get name) => trivial
  | .store k (.create x) => cases h
  | .store k (.replace x) => cases h
  | .now | .generate _ | .chance | .report _ | .sleep _ => trivial

theorem Request.Proper.mono {seen seen' : (k : Kind) → k.Object → Prop} {r : Request}
    (h : ∀ k x, seen k x → seen' k x) (H : r.Proper c blank seen) : r.Proper c blank seen' := by
  match r with
  | .store k (.replace y) =>
    obtain ⟨x, hx, hy⟩ := H
    exact ⟨x, h k x hx, hy⟩
  | .store k (.get name) => trivial
  | .store k (.create x) => exact H
  | .now | .generate _ | .chance | .report _ | .sleep _ => trivial

/-- A replacement made of an object that was seen lands on this object, or not at all. -/
theorem Request.Proper.deals {r : Request} {answer : Except String r.Answer} {stores : Stores}
    (hr : r.Proper c blank s.Seen) (H : s.Answers r answer stores) :
    Deals c blank s r answer stores := by
  match r with
  | .store k (.get name) =>
    exact .quiet (Request.ReadsOnly.not_wrote (r := .store k (.get name)) rfl) H.get.1
  | .store k (.create x) =>
    rcases H.create with ⟨hfails, halike⟩ | ⟨rfl, hnone, hgains⟩
    · refine .quiet (fun hwrote => ?_) halike
      obtain ⟨y, hy⟩ := hwrote.of_create
      exact hfails hy
    · exact .created hnone hr hgains
  | .store k (.replace y) =>
    rcases H.replace with ⟨hfails, halike⟩ | ⟨rfl, ⟨current, hcurrent, hversion⟩, hgains⟩
    · refine .quiet (fun hwrote => ?_) halike
      obtain ⟨z, hz⟩ := hwrote.of_replace
      exact hfails hz
    · obtain ⟨x, hseen, hx⟩ := hr
      rw [Resource.anyName_of_metadata hx.metadata] at hcurrent
      rw [Resource.version_of_metadata hx.metadata] at hversion
      have hsame : current = x := hseen.eq hcurrent hversion
      exact .replaced (hsame ▸ hcurrent) hx hgains
  | .now | .generate _ | .chance | .report _ | .sleep _ =>
    refine .quiet id ?_
    rw [H.stores_eq fun _ _ => id]
    exact .refl _

namespace Script

variable {α β : Type} {seen seen' : (k : Kind) → k.Object → Prop} {p : Script α}
  {f : α → Script β}

/-- Every write of the script is proper by what was seen before and what the script itself has read
by then. -/
def Informed (c : Controller) (blank : Prop) (seen : (k : Kind) → k.Object → Prop) :
    Script α → Prop
  | .done _ | .stop _ => True
  | .ask r next => r.Proper c blank seen ∧ ∀ answer, r.Possible answer →
    (next answer).Informed c blank fun k x => seen k x ∨ r.Reads k (some x) answer

namespace Informed

theorem mono (h : ∀ k x, seen k x → seen' k x) (H : p.Informed c blank seen) :
    p.Informed c blank seen' := by
  induction p generalizing seen seen' with
  | done | stop => trivial
  | ask r next ih =>
    exact ⟨H.1.mono h, fun answer hpossible =>
      ih answer (fun k x hx => hx.imp_left (h k x)) (H.2 answer hpossible)⟩

theorem bind (H : p.Informed c blank seen) (K : ∀ a, (f a).Informed c blank seen) :
    (p >>= f).Informed c blank seen := by
  induction p generalizing seen with
  | done a => exact K a
  | stop why => trivial
  | ask r next ih =>
    exact ⟨H.1, fun answer hpossible =>
      ih answer (H.2 answer hpossible) fun a => (K a).mono fun k x hx => .inl hx⟩

theorem of_readsOnly (H : p.Asks Request.ReadsOnly) : p.Informed c blank seen := by
  induction p generalizing seen with
  | done | stop => trivial
  | ask r next ih => exact ⟨H.1.proper, fun answer hpossible => ih answer (H.2 answer hpossible)⟩

/-- Scripts side by side, each of which is informed, do only what may happen: what one of them has
seen, nobody can make unseen. -/
theorem course {ps qs : List (Script α)} (hps : ∀ p ∈ ps, p.Informed c blank s.Seen)
    (H : Steps Outside ps s qs t) : Course c blank s t := by
  induction H with
  | rest hout => exact course_of_outside hout
  | @step ps s m i r next answer stores qs t hp hm H _ ih =>
    have hdrift (k : Kind) : (m.stores k).Drift ((m.after H).stores k) := H.drift k
    have hseen {p} (h : p ∈ ps) : p.Informed c blank m.Seen :=
      (hps p h).mono fun k x hx => hx.drift (hm.drift k)
    obtain ⟨hproper, hnext⟩ := hseen (List.mem_of_getElem? hp)
    have hmove : Happens c blank m (m.after H) := .request H rfl (hproper.deals H)
    refine (Relation.ReflTransGen.tail (course_of_outside hm) hmove).trans (ih fun q hq => ?_)
    rcases List.mem_or_eq_of_mem_set hq with hq | rfl
    · exact (hseen hq).mono fun k x hx => hx.drift (hdrift k)
    · refine (hnext answer H.possible).mono fun k x hx => ?_
      rcases hx with hx | hread
      · exact hx.drift (hdrift k)
      · cases hread
        have hfound := H.get.2 rfl
        have hname := (m.sound _).name hfound
        subst hname
        exact ⟨m.stores _, m.sound _, hfound, hdrift _⟩

theorem keeps (H : ∀ seen, p.Informed c blank seen) : p.Keeps Outside (Course c blank s) := by
  intro m result t hs hrun
  have hinformed : ∀ q ∈ [p], q.Informed c blank m.Seen := List.forall_mem_singleton.2 (H _)
  exact Relation.ReflTransGen.trans hs (course hinformed hrun.steps)

theorem loop {ε : Type} {schedule : Schedule} {operation : String} {again : ε → Bool}
    {body : Nat → Script (Except ε α)} {rounds attempt : Nat} {delay : Duration}
    (H : ∀ n, (body n).Informed c blank seen) :
    (Retry.attempts schedule operation again body rounds attempt delay).Informed c blank seen := by
  refine Retry.attempts_induction (fun _ => trivial) (fun _ => trivial) (fun {r next} hr hnext => ?_)
    fun {n f} hok hfail => (H n).bind fun answer => ?_
  · have hreads : r.ReadsOnly := by
      cases r with
      | store => exact hr.elim
      | _ => trivial
    exact ⟨hreads.proper, fun answer _ => (hnext answer).mono fun k x hx => .inl hx⟩
  · cases answer with
    | ok a =>
      rw [hok]
      trivial
    | error e => exact hfail e

end Informed

end Script

theorem Amendment.informed {k : Kind} {name : String} {β : Type} (A : Amendment k name β)
    {seen : (k : Kind) → k.Object → Prop}
    (hcreate : ∀ {x b}, A.plan none = .write x b → c.Creates blank k x)
    (hreplace : ∀ {x y b}, Resource.anyName x = name → A.plan (some x) = .write y b →
      c.Amends k x y) : A.attempt.run.Informed c blank seen := by
  refine ⟨trivial, fun answer hpossible => ?_⟩
  match answer with
  | .error text => trivial
  | .ok (.error e) => trivial
  | .ok (.ok found) =>
    show (act found (A.plan found)).run.Informed c blank _
    cases hplan : A.plan found with
    | finish result => trivial
    | write y b =>
      cases found with
      | none =>
        refine ⟨hcreate hplan, fun answer _ => ?_⟩
        match answer with
        | .error text | .ok (.error e) | .ok (.ok x) => trivial
      | some x =>
        refine ⟨⟨x, .inr .intro, hreplace hpossible hplan⟩, fun answer _ => ?_⟩
        match answer with
        | .error text | .ok (.error e) | .ok (.ok x) => trivial

namespace Rotation

open Scene

variable {horizon : Nat} {a : Authority} {bundle : Bytes} {schedule : Schedule}

theorem sync_informed {target : Target} (htarget : target ∈ c.targets)
    (seen : (k : Kind) → k.Object → Prop) :
    (target.sync horizon bundle schedule).run.Informed c blank seen := by
  rw [Target.sync_eq]
  refine (Script.Informed.loop fun _ => Amendment.informed _ (fun h => by cases h) ?_).bind
    fun _ => trivial
  intro x y b hname hplan
  dsimp only [Target.syncing] at hplan
  split at hplan
  · cases hplan
    rw [WebhookConfiguration.inject_eq]
    exact .trusting bundle htarget hname
  · cases hplan

theorem persist_informed (seen : (k : Kind) → k.Object → Prop) :
    (persist horizon c.caSecret c.namespaceName a schedule).run.Informed c blank seen := by
  rw [persist_eq]
  refine (Script.Informed.loop fun _ => Amendment.informed _ ?_ ?_).bind fun _ => trivial
  · intro x b hplan
    cases hplan
    exact .holding a
  · intro x y b hname hplan
    dsimp only [storing, creation] at hplan
    split at hplan
    · cases hplan
    · cases hplan
      exact .holding a hname

theorem invalidateLeaf_informed (seen : (k : Kind) → k.Object → Prop) :
    (invalidateLeaf horizon c.leafSecret schedule).run.Informed c blank seen := by
  rw [invalidateLeaf_eq]
  refine Script.Informed.bind ?_ fun _ => trivial
  refine (Script.Informed.loop fun _ => Amendment.informed _ (fun h => by cases h) ?_).bind
    fun _ => trivial
  intro x y b hname hplan
  dsimp only [clearing] at hplan
  split at hplan
  · cases hplan
    exact .cleared hname
  · cases hplan

theorem ensure_informed (hblank : blank) (seen : (k : Kind) → k.Object → Prop) :
    (ensureSecret horizon c.caSecret c.namespaceName schedule).run.Informed c blank seen := by
  refine Script.Informed.loop fun _ => ⟨trivial, fun answer _ => ?_⟩
  match answer with
  | .error text => trivial
  | .ok (.error e) => trivial
  | .ok (.ok (some x)) => trivial
  | .ok (.ok none) =>
    refine ⟨.empty hblank, fun answer _ => ?_⟩
    match answer with
    | .error text => trivial
    | .ok (.ok y) => trivial
    | .ok (.error e) =>
      show (if e.isConflict then pure false else throw e : Attempt Bool).run.Informed c blank _
      split <;> trivial

theorem propagate_course : (propagate horizon c.targets bundle schedule).run.Keeps Outside
    (Course c blank s) := by
  intro m result t hs hrun
  have course {result n}
      (h : (Script.together (Retry.rounds horizon schedule)
        (c.targets.map fun target => (target.sync horizon bundle schedule).run)).Runs Outside m
          result n) : Course c blank s n := by
    obtain ⟨qs, hsteps, -⟩ := h.together_cases
    refine Relation.ReflTransGen.trans hs (Script.Informed.course (fun p hp => ?_) hsteps)
    obtain ⟨target, htarget, rfl⟩ := List.mem_map.1 hp
    exact sync_informed htarget _
  rcases hrun.bind with ⟨why, -, h⟩ | ⟨results, n, h, -, hout⟩
  · exact course h
  · exact course_stable hout (course h)

theorem pass_course : (pass horizon c).run.Keeps Outside (Course c blank s) := by
  have reads {α : Type} {p : Script α} (h : p.Asks Request.ReadsOnly) :
      p.Keeps Outside (Course c blank s) := Script.Informed.keeps fun _ => .of_readsOnly h
  rw [pass_eq]
  refine Keeps.attempt (reads now_asks) fun now => ?_
  refine Keeps.attempt (reads load_asks) fun found => ?_
  refine Keeps.attempt (reads choose_asks) fun (a, regenerated, requeueAfter) => ?_
  refine Keeps.attempt propagate_course fun propagated => ?_
  refine Keeps.attempt (Script.Informed.keeps persist_informed) fun persistence => ?_
  refine Keeps.attempt ?_ fun leaf => .done course_stable _
  cases persistence with
  | updated =>
    exact Keeps.attempt (Script.Informed.keeps invalidateLeaf_informed) fun _ =>
      .done course_stable _
  | created => exact .done course_stable _
  | unchanged => exact .done course_stable _

theorem bootstrap_course (hblank : blank) :
    (bootstrap horizon c schedule).run.Keeps Outside (Course c blank s) := by
  intro m result t hs hrun
  have looked {result n} (h : (presence horizon c.caSecret schedule).run.Runs Outside m result n) :
      Course c blank s n :=
    Script.Informed.keeps (fun _ => .of_readsOnly (presence_asks.mono fun _ hr => hr.1)) hs h
  cases startup_of_runs hrun with
  | unseen h | present h => exact looked h
  | stopped h hpass | issued h hpass => exact pass_course (looked h) hpass
  | unfilled h hpass hensure | deferred h hpass hensure =>
    exact Script.Informed.keeps (ensure_informed hblank) (pass_course (looked h) hpass) hensure

theorem reconcile_course {changed : Secret} :
    (reconcile horizon c changed).run.Keeps Outside (Course c blank s) := by
  rw [reconcile]
  split
  · exact .done course_stable _
  · exact Keeps.attempt pass_course fun _ => .done course_stable _

/-! ## Runs of operations -/

/-- All that the controller can be asked to do. -/
inductive Operation where
  | pass
  | reconcile (changed : Secret)
  | bootstrap (schedule : Schedule)
  | propagate (bundle : Bytes) (schedule : Schedule)
  | persist (a : Authority) (schedule : Schedule)
  | invalidate (schedule : Schedule)
  | ensure (schedule : Schedule)

namespace Operation

/-- The operation may leave a secret without entries. -/
def Ensures : Operation → Prop
  | .bootstrap _ | .ensure _ => True
  | .pass | .reconcile _ | .propagate .. | .persist .. | .invalidate _ => False

/-- The operation can lead from one scene to another, whatever comes of it. -/
def Runs (c : Controller) (s t : Scene) : Operation → Prop
  | .pass => ∃ horizon result, (Rotation.pass horizon c).run.Runs Outside s result t
  | .reconcile changed =>
    ∃ horizon result, (Rotation.reconcile horizon c changed).run.Runs Outside s result t
  | .bootstrap schedule =>
    ∃ horizon result, (Rotation.bootstrap horizon c schedule).run.Runs Outside s result t
  | .propagate bundle schedule => ∃ horizon result,
    (Rotation.propagate horizon c.targets bundle schedule).run.Runs Outside s result t
  | .persist a schedule => ∃ horizon result,
    (Rotation.persist horizon c.caSecret c.namespaceName a schedule).run.Runs Outside s result t
  | .invalidate schedule => ∃ horizon result,
    (invalidateLeaf horizon c.leafSecret schedule).run.Runs Outside s result t
  | .ensure schedule => ∃ horizon result,
    (ensureSecret horizon c.caSecret c.namespaceName schedule).run.Runs Outside s result t

theorem course {operation : Operation} (H : operation.Runs c s t) (h : operation.Ensures → blank) :
    Course c blank s t := by
  cases operation with
  | pass =>
    obtain ⟨_, _, H⟩ := H
    exact pass_course .refl H
  | reconcile changed =>
    obtain ⟨_, _, H⟩ := H
    exact reconcile_course .refl H
  | bootstrap schedule =>
    obtain ⟨_, _, H⟩ := H
    exact bootstrap_course (h trivial) .refl H
  | propagate bundle schedule =>
    obtain ⟨_, _, H⟩ := H
    exact propagate_course .refl H
  | persist a schedule =>
    obtain ⟨_, _, H⟩ := H
    exact Script.Informed.keeps persist_informed .refl H
  | invalidate schedule =>
    obtain ⟨_, _, H⟩ := H
    exact Script.Informed.keeps invalidateLeaf_informed .refl H
  | ensure schedule =>
    obtain ⟨_, _, H⟩ := H
    exact Script.Informed.keeps (ensure_informed (h trivial)) .refl H

end Operation

/-- Operations among other writers, one after the other and each at a time of its own. -/
inductive Works (c : Controller) : List Operation → Scene → Scene → Prop
  | none {s t : Scene} : Outside s t → Works c [] s t
  | more {now : Instant} {operation : Operation} {operations : List Operation} {s m t : Scene} :
    operation.Runs c { s with clock := now } m → Works c operations m t →
    Works c (operation :: operations) s t

theorem Works.course {operations : List Operation} (H : Works c operations s t)
    (h : ∀ operation ∈ operations, operation.Ensures → blank) : Course c blank s t := by
  induction H with
  | none hout => exact course_of_outside hout
  | more hrun _ ih =>
    obtain ⟨hfirst, hlater⟩ := List.forall_mem_cons.1 h
    exact (Relation.ReflTransGen.head (.time rfl) (Operation.course hrun hfirst)).trans (ih hlater)

end Rotation

/-! ## What becomes of the objects -/

section Frame

variable {k : Kind} {name : String}

/-- What becomes of an object that no other writer touches: it does not go, it comes only if it is
the secret of the authority, and it stays as it is if the controller does not look after it. -/
structure Framed (c : Controller) (k : Kind) (name : String) (s t : Scene) : Prop where
  stays : s.object k name ≠ none → t.object k name ≠ none
  comes : s.object k name = none → t.object k name ≠ none → k = .secret ∧ name = c.caSecret
  same : ¬ c.Tends k name → t.object k name = s.object k name

theorem Framed.of_eq (h : t.object k name = s.object k name) : Framed c k name s t where
  stays hs := h.symm ▸ hs
  comes hs ht := absurd (h.trans hs) ht
  same _ := h

theorem Framed.trans (H : Framed c k name s m) (K : Framed c k name m t) :
    Framed c k name s t where
  stays hs := K.stays (H.stays hs)
  comes hs ht := by
    by_cases hm : m.object k name = none
    · exact K.comes hm ht
    · exact H.comes hs hm
  same h := (K.same h).trans (H.same h)

/-- What is put in is tended, and is the secret of the authority if nothing was there. -/
theorem Framed.of_gains {k' : Kind} {x : k'.Object} (hgains : s.stores.Gains k' x t.stores)
    (htends : c.Tends k' (Resource.anyName x))
    (hcomes : s.object k' (Resource.anyName x) = none →
      k' = .secret ∧ Resource.anyName x = c.caSecret) : Framed c k name s t := by
  by_cases hname : k = k' ∧ name = Resource.anyName x
  · obtain ⟨rfl, rfl⟩ := hname
    refine ⟨fun _ => ?_, fun hs _ => hcomes hs, fun h => absurd htends h⟩
    rw [Scene.object, hgains.gains.get?_self]
    exact Option.some_ne_none _
  · refine .of_eq ?_
    by_cases hk : k = k'
    · subst hk
      exact hgains.gains.get?_of_ne fun h => hname ⟨rfl, h⟩
    · exact congrArg (·.get? name) (hgains.others k hk).objects

/-- Each thing that happens adds at most one event to the past, and treats every object well that
it is no deed on. -/
theorem Happens.framed (H : Happens c blank s t) : ∃ since, t.past = since ++ s.past ∧
    ∀ k name, (∀ e ∈ since, ¬ e.DeedOn k name) → Framed c k name s t := by
  cases H with
  | @deed k' d h =>
    subst h
    refine ⟨[.deed k' d], rfl, fun k name hdeeds => .of_eq ?_⟩
    exact Scene.object_suffer_of_not (hdeeds _ (List.mem_singleton.2 rfl))
  | time h =>
    subst h
    exact ⟨[], rfl, fun _ _ _ => .of_eq rfl⟩
  | @request r answer stores H h hdeals =>
    subst h
    refine ⟨[.request s.stores r answer], rfl, fun k name _ => ?_⟩
    cases hdeals with
    | quiet _ halike => exact .of_eq (congrArg (·.get? name) (halike k).objects)
    | replaced hstored hamends hgains =>
      have hname := Resource.anyName_of_metadata hamends.metadata
      refine .of_gains hgains (hname ▸ hamends.tends) fun hnone => ?_
      rw [hname, hstored] at hnone
      cases hnone
    | created _ hcreates hgains =>
      exact .of_gains hgains hcreates.tends fun _ => hcreates.on_authority

theorem Course.framed (H : Course c blank s t) : ∃ since, t.past = since ++ s.past ∧
    ∀ k name, (∀ e ∈ since, ¬ e.DeedOn k name) → Framed c k name s t := by
  induction H with
  | refl => exact ⟨[], rfl, fun _ _ _ => .of_eq rfl⟩
  | tail _ hstep ih =>
    obtain ⟨before, hpast, hbefore⟩ := ih
    obtain ⟨since, hpast', hsince⟩ := hstep.framed
    refine ⟨since ++ before, by rw [hpast', hpast, List.append_assoc], fun k name hdeeds => ?_⟩
    obtain ⟨hlater, hearlier⟩ := List.forall_mem_append.1 hdeeds
    exact (hbefore k name hearlier).trans (hsince k name hlater)

end Frame

namespace Rotation

/-- Whatever operations the controller makes and whatever others do in between: all that happens is
that others do their deeds and that requests of the controller are answered, and a request of the
controller changes the stores only by replacing what is stored at that very moment with what the
controller may make of it, or by creating the secret of the authority. So of the objects that no
other writer touches none goes, none comes but this secret, and none changes but those that the
controller looks after. -/
theorem works_composes {operations : List Operation} (H : Works c operations s t) :
    Course c (∃ operation ∈ operations, operation.Ensures) s t ∧
      ∃ since, t.past = since ++ s.past ∧
        ∀ k name, (∀ e ∈ since, ¬ e.DeedOn k name) → Framed c k name s t := by
  have hcourse : Course c (∃ operation ∈ operations, operation.Ensures) s t :=
    H.course fun operation hmem hensures => ⟨operation, hmem, hensures⟩
  exact ⟨hcourse, hcourse.framed⟩

/-- Another writer is faster twice, once of them after the pass has read what it is to replace. -/
theorem works_composes_overtaken : ∃ s t, Works Sample.controller [.pass] s t ∧
    t.past.written = [(.secret, "leaf"), (.secret, "ca"), (.webhook .validating, "validating"),
      (.webhook .mutating, "mutating")] ∧
    Course Sample.controller (∃ operation ∈ [Operation.pass], operation.Ensures) s t ∧
      ∃ since, t.past = since ++ s.past ∧ ∀ k name, (∀ e ∈ since, ¬ e.DeedOn k name) →
        Framed Sample.controller k name s t := by
  have hwritten : (Sample.pass (overtaken, [])).2.2.written = [(.secret, "leaf"), (.secret, "ca"),
      (.webhook .validating, "validating"), (.webhook .mutating, "mutating")] := by decide +kernel
  obtain ⟨sound, hrun⟩ := Sample.pass_outside overtaken [] (Sample.sound rfl)
  let s : Scene := overtaken.scene (Sample.sound rfl) []
  have hworks : Works Sample.controller [.pass] s _ :=
    @Works.more _ s.clock _ _ _ _ _ ⟨1, _, hrun⟩ (.none .refl)
  exact ⟨s, _, hworks, hwritten, works_composes hworks⟩

end Rotation

end TrustAnchor
