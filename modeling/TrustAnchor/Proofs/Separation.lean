import TrustAnchor.Proofs.Delays
import TrustAnchor.Proofs.Turns

/-! Targets in stores of their own. Scripts that call different stores cannot tell whether they run
side by side or one after the other: what each of them comes to, and what it leaves in its store, is
a matter of that store alone. The random numbers that they share decide only how long they sleep. -/

namespace TrustAnchor

open Script (Attempt Asks Ends Follows Interleaves Moves ofResult)

/-- The state of a backend is made of stores. Every call is answered from the store of its object,
which is all that it changes, and in `good` states what is read has the name that was asked for. -/
structure Backend.Parted {σ ι : Type} {π : ι → Type} (backend : Backend σ) (good : σ → Prop)
    (part : (i : ι) → σ → π i) (store : Kind → String → ι) : Prop where
  ext {s t : σ} : (∀ i, part i s = part i t) → s = t
  answer {s t : σ} {k : Kind} {c : Call k.Object} :
    part (store k c.name) s = part (store k c.name) t → (backend k c s).1 = (backend k c t).1
  own {s t : σ} {k : Kind} {c : Call k.Object} :
    part (store k c.name) s = part (store k c.name) t →
      part (store k c.name) (backend k c s).2 = part (store k c.name) (backend k c t).2
  others {s : σ} {k : Kind} {c : Call k.Object} {i : ι} :
    i ≠ store k c.name → part i (backend k c s).2 = part i s
  keeps {s : σ} {k : Kind} {c : Call k.Object} : good s → good (backend k c s).2
  possible {s : σ} {k : Kind} {c : Call k.Object} :
    good s → (Request.store k c).Possible (backend k c s).1

/-- Only fractions can be drawn. -/
def Environment.Fair (e : Environment) : Prop := ∀ u ∈ e.chances, u.Fraction

theorem Environment.Fair.chance {e : Environment} (H : e.Fair) : e.chance.Fraction := by
  rcases e.chance_cases with h | h
  · exact H _ h
  · rw [h]
    exact Binary64.fraction_half

namespace Script

variable {σ ι α β : Type} {π : ι → Type} {backend : Backend σ} {good : σ → Prop}
  {part : (i : ι) → σ → π i} {store : Kind → String → ι} {p : Script α} {f : α → Script β}
  {s s' m t : σ} {result : Except Stop α} {i : ι}

/-- The script comes to the result and leaves the state, whatever fractions are drawn. Nothing but the
backend is asked for anything else. -/
def Comes (backend : Backend σ) : Script α → σ → Except Stop α → σ → Prop
  | .done a, s, result, t => result = .ok a ∧ t = s
  | .stop why, s, result, t => result = .error why ∧ t = s
  | .ask (.store k c) next, s, result, t =>
    (next (backend k c s).1).Comes backend (backend k c s).2 result t
  | .ask .chance next, s, result, t => ∀ u, u.Fraction → (next (.ok u)).Comes backend s result t
  | .ask (.report _) next, s, result, t => (next (.ok ())).Comes backend s result t
  | .ask (.sleep _) next, s, result, t => (next (.ok ())).Comes backend s result t
  | .ask .now _, _, _, _ => False
  | .ask (.generate _) _, _, _, _ => False

namespace Comes

theorem bind_stop {why : Stop} (H : p.Comes backend s (.error why) t) :
    (p >>= f).Comes backend s (.error why) t := by
  induction p generalizing s with
  | done a => cases H.1
  | stop why =>
    cases H.1
    exact ⟨rfl, H.2⟩
  | ask r next ih =>
    cases r with
    | store k c => exact ih _ H
    | chance => exact fun u hu => ih _ (H u hu)
    | report | sleep => exact ih _ H
    | now | generate => exact H

theorem bind {a : α} {result : Except Stop β} (H : p.Comes backend s (.ok a) m)
    (K : (f a).Comes backend m result t) : (p >>= f).Comes backend s result t := by
  induction p generalizing s with
  | done a =>
    obtain ⟨hresult, rfl⟩ := H
    cases hresult
    exact K
  | stop why => cases H.1
  | ask r next ih =>
    cases r with
    | store k c => exact ih _ H
    | chance => exact fun u hu => ih _ (H u hu)
    | report | sleep => exact ih _ H
    | now | generate => exact H

theorem not_unfinished {b : Nat} (hends : p.Ends b) (H : p.Comes backend s result t) :
    result ≠ .error .unfinished := by
  induction p generalizing s b with
  | done a =>
    rw [H.1]
    nofun
  | stop why =>
    rw [H.1]
    exact fun h => hends (Except.error.inj h)
  | ask r next ih =>
    cases r with
    | store k c => exact ih _ (hends _) H
    | chance => exact ih _ (hends _) (H _ Binary64.fraction_half)
    | report => exact ih _ (hends _) H
    | sleep => exact ih _ (hends.2 _) H
    | now | generate => exact H.elim

/-- A request in a world, however the world answers it. -/
theorem ask {r : Request} {next : Except String r.Answer → Script α} {w : World σ}
    (H : (Script.ask r next).Comes backend w.objects result t) (hw : w.env.Fair) :
    (next (World.handler backend r w).1).Comes backend (World.handler backend r w).2.objects result
      t ∧ (World.handler backend r w).2.env.Fair := by
  cases r with
  | store k c => exact ⟨H, hw⟩
  | chance => exact ⟨H _ hw.chance, hw⟩
  | report | sleep => exact ⟨H, hw⟩
  | now | generate => exact H.elim

/-- What the script comes to in a world. -/
theorem run {w : World σ} (H : p.Comes backend w.objects result t) (hw : w.env.Fair) :
    ∃ e, e.Fair ∧ p.run (World.handler backend) w = (result, ⟨e, t⟩) := by
  induction p generalizing w with
  | done a =>
    obtain ⟨rfl, rfl⟩ := H
    exact ⟨w.env, hw, rfl⟩
  | stop why =>
    obtain ⟨rfl, rfl⟩ := H
    exact ⟨w.env, hw, rfl⟩
  | ask r next ih =>
    obtain ⟨H, hw⟩ := H.ask hw
    exact ih _ H hw

section Parted

variable (hparted : backend.Parted good part store)
include hparted

/-- A script leaves what is not in its store alone. -/
theorem frame (hasks : p.Asks (Request.Within fun k name => store k name = i)) (hs : good s)
    (H : p.Comes backend s result t) : good t ∧ ∀ j ≠ i, part j t = part j s := by
  induction p generalizing s with
  | done a =>
    obtain ⟨-, rfl⟩ := H
    exact ⟨hs, fun _ _ => rfl⟩
  | stop why =>
    obtain ⟨-, rfl⟩ := H
    exact ⟨hs, fun _ _ => rfl⟩
  | ask r next ih =>
    cases r with
    | store k c =>
      obtain ⟨hgood, hsame⟩ := ih _ (hasks.2 _ (hparted.possible hs)) (hparted.keeps hs) H
      refine ⟨hgood, fun j hj => (hsame j hj).trans (hparted.others ?_)⟩
      rintro rfl
      exact hj hasks.1
    | chance => exact ih _ (hasks.2 _ trivial) hs (H _ Binary64.fraction_half)
    | report | sleep => exact ih _ (hasks.2 _ trivial) hs H
    | now | generate => exact H.elim

/-- A script is only concerned with what is in its store. -/
theorem of_part (hasks : p.Asks (Request.Within fun k name => store k name = i)) (hs : good s)
    (hs' : good s') (hpart : part i s = part i s') (H : p.Comes backend s result t) :
    ∃ t', p.Comes backend s' result t' ∧ part i t' = part i t := by
  induction p generalizing s s' with
  | done a =>
    obtain ⟨rfl, rfl⟩ := H
    exact ⟨s', ⟨rfl, rfl⟩, hpart.symm⟩
  | stop why =>
    obtain ⟨rfl, rfl⟩ := H
    exact ⟨s', ⟨rfl, rfl⟩, hpart.symm⟩
  | ask r next ih =>
    cases r with
    | store k c =>
      have hi : store k c.name = i := hasks.1
      subst hi
      have hnext := hasks.2 _ (hparted.possible hs)
      have hsame : (backend k c s).1 = (backend k c s').1 := hparted.answer hpart
      obtain ⟨t', H', ht'⟩ := ih _ hnext (hparted.keeps hs) (hparted.keeps hs') (hparted.own hpart) H
      refine ⟨t', ?_, ht'⟩
      show (next (backend k c s').1).Comes backend (backend k c s').2 result t'
      rwa [← hsame]
    | chance =>
      -- Different numbers lead to one state: in its store and in all others it is the same.
      have hnext (u : Binary64) : (next (.ok u)).Asks _ := hasks.2 (.ok u) trivial
      have hhalf := H _ Binary64.fraction_half
      obtain ⟨t', H', ht'⟩ := ih _ (hnext _) hs hs' hpart hhalf
      refine ⟨t', fun u hu => ?_, ht'⟩
      obtain ⟨t'', H'', ht''⟩ := ih _ (hnext u) hs hs' hpart (H u hu)
      suffices hsame : t'' = t' by rwa [← hsame]
      refine hparted.ext fun j => ?_
      by_cases hj : j = i
      · subst hj
        exact ht''.trans ht'.symm
      · exact ((H''.frame hparted (hnext u) hs').2 j hj).trans
          ((H'.frame hparted (hnext _) hs').2 j hj).symm
    | report | sleep => exact ih _ (hasks.2 _ trivial) hs hs' hpart H
    | now | generate => exact H.elim

end Parted

end Comes

/-- The script comes to something in every state. -/
def Sure (backend : Backend σ) (p : Script α) : Prop :=
  ∀ s, ∃ result t, p.Comes backend s result t

namespace Sure

theorem done (a : α) : (Script.done a).Sure backend := fun s => ⟨.ok a, s, rfl, rfl⟩

theorem stop (why : Stop) : (Script.stop why : Script α).Sure backend :=
  fun s => ⟨.error why, s, rfl, rfl⟩

theorem bind (H : p.Sure backend) (K : ∀ a, (f a).Sure backend) : (p >>= f).Sure backend := by
  intro s
  obtain ⟨result, m, H⟩ := H s
  cases result with
  | error why => exact ⟨_, m, H.bind_stop⟩
  | ok a =>
    obtain ⟨result, t, K⟩ := K a m
    exact ⟨result, t, H.bind K⟩

theorem call {k : Kind} {c : Call k.Object} {next : Except String c.Answer → Script α}
    (H : ∀ answer, (next answer).Sure backend) : (Script.ask (.store k c) next).Sure backend :=
  fun _ => H _ _

end Sure

end Script

namespace Retry

open Script

variable {σ α ε : Type} {backend : Backend σ} {schedule : Schedule} {operation : String}
  {rounds attempt horizon : Nat} {delay : Duration}

/-- A loop of attempts whose delays can be computed comes to something, and to the same after any
sleeps. -/
theorem attempts_sure {again : ε → Bool} {body : Nat → Script (Except ε α)}
    (hbody : ∀ n, (body n).Sure backend)
    (hsteady : schedule.Steady Binary64.Fraction rounds delay) :
    (attempts schedule operation again body rounds attempt delay).Sure backend := by
  induction rounds generalizing attempt delay with
  | zero => exact .stop _
  | succ rounds ih =>
    obtain ⟨hpause, next, hnext, hsteady⟩ := hsteady
    refine (hbody attempt).bind fun answer => ?_
    cases answer with
    | ok a => exact .done _
    | error e =>
      dsimp only
      split
      · exact .done _
      · split
        · exact fun s => ⟨_, s, rfl, rfl⟩
        · intro s
          obtain ⟨result, t, hrest⟩ : ∃ result t, (attempts schedule operation again body rounds
              (attempt + 1) next).Comes backend s result t := ih hsteady s
          refine ⟨result, t, fun u hu => ?_⟩
          obtain ⟨pause, hpause⟩ := hpause u hu
          show (checked (Schedule.pause delay u) >>= _).Comes backend s result t
          rw [hpause]
          show (checked (schedule.nextDelay delay) >>= _).Comes backend s result t
          rw [hnext]
          exact hrest

theorem onConflict_sure {body : Nat → Script (Except Error α)} (hbody : ∀ n, (body n).Sure backend)
    (hsteady : schedule.Steady Binary64.Fraction (Retry.rounds horizon schedule)
      schedule.initialDelay) :
    (onConflict horizon schedule operation body).Sure backend :=
  (attempts_sure hbody hsteady).bind fun _ => .done _

end Retry

theorem Amendment.attempt_sure {σ : Type} {backend : Backend σ} {k : Kind} {name : String}
    {β : Type} (A : Amendment k name β) : A.attempt.run.Sure backend := by
  refine Script.Sure.call fun answer => ?_
  match answer with
  | .error text => exact .stop _
  | .ok (.error e) => exact .done _
  | .ok (.ok found) =>
    show (act found (A.plan found)).run.Sure backend
    cases A.plan found with
    | finish result => exact .done _
    | write x b =>
      have hput : (put k found x).run.Sure backend := by
        cases found with
        | none =>
          refine Script.Sure.call fun answer => ?_
          cases answer with
          | ok => exact .done _
          | error text => exact .stop _
        | some y =>
          refine Script.Sure.call fun answer => ?_
          cases answer with
          | ok => exact .done _
          | error text => exact .stop _
      refine hput.bind fun result => ?_
      cases result with
      | ok => exact .done _
      | error => exact .done _

/-! ## Scripts in stores of their own -/

/-- The store that a target is in. -/
abbrev Target.store {ι : Type} (store : Kind → String → ι) (t : Target) : ι :=
  store (.webhook t.kind) t.name

section Stores

variable {σ ι α : Type} {π : ι → Type} {backend : Backend σ} {good : σ → Prop}
  {part : (i : ι) → σ → π i} {store : Kind → String → ι} {p : Script α} {s s' left : σ}
  {result : Except Stop α} {i : ι}

/-- The script, which is only about one store, comes to the result, and leaves this store as it is
left in the end. -/
structure Script.Makes (backend : Backend σ) (part : (i : ι) → σ → π i)
    (store : Kind → String → ι) (left : σ) (i : ι) (p : Script α) (s : σ)
    (result : Except Stop α) : Prop where
  asks : p.Asks (Request.Within fun k name => store k name = i)
  comes : ∃ t, p.Comes backend s result t ∧ part i t = part i left

theorem Script.Makes.of_part (hparted : backend.Parted good part store)
    (H : p.Makes backend part store left i s result) (hs : good s) (hs' : good s')
    (hpart : part i s = part i s') : p.Makes backend part store left i s' result := by
  obtain ⟨t, hcomes, ht⟩ := H.comes
  obtain ⟨t', hcomes', ht'⟩ := hcomes.of_part hparted H.asks hs hs' hpart
  exact ⟨H.asks, t', hcomes', ht'.trans ht⟩

end Stores

namespace Rotation

variable {σ ι : Type} {π : ι → Type} {backend : Backend σ} {good : σ → Prop}
  {part : (i : ι) → σ → π i} {store : Kind → String → ι} {horizon : Nat} {bundle : Bytes}
  {schedule : Schedule} {targets order : List Target} {s s' left : σ} {w w' : World σ}
  {outcome : Target → Except String (Except Error SyncOutcome)}
  {ps qs : List (Script (Except Error SyncOutcome))} {i : Nat} {r : Request}
  {next : Except String r.Answer → Script (Except Error SyncOutcome)}

/-- The loops of targets, each alone and one after the other. -/
def inTurn (backend : Backend σ) (horizon : Nat) (bundle : Bytes) (schedule : Schedule) :
    List Target → World σ → List (Target × Except Stop (Except Error SyncOutcome)) × World σ
  | [], w => ([], w)
  | t :: rest, w =>
    let (result, w) := (t.sync horizon bundle schedule).run.run (World.handler backend) w
    let (results, w) := inTurn backend horizon bundle schedule rest w
    ((t, result) :: results, w)

theorem sync_within {t : Target} : (t.sync horizon bundle schedule).run.Asks
    (Request.Within fun k name => store k name = t.store store) := by
  refine sync_asks.mono fun r hr => ?_
  cases r with
  | store k c =>
    obtain ⟨rfl, hname⟩ := hr
    exact congrArg (store _) hname
  | now | generate | chance | report | sleep => trivial

/-- Every target comes to something in every state: to a result, or to the text with which it broke
off. -/
theorem sync_comes {t : Target} (hattempts : schedule.maxAttempts ≠ 0)
    (hsteady : schedule.Steady Binary64.Fraction (Retry.rounds horizon schedule)
      schedule.initialDelay) (s : σ) :
    ∃ (result : Except String (Except Error SyncOutcome)) (m : σ),
      (t.sync horizon bundle schedule).run.Comes backend s (result.mapError .panicked) m := by
  have hsure : (t.sync horizon bundle schedule).run.Sure backend := by
    rw [Target.sync_eq]
    exact Retry.onConflict_sure (fun _ => Amendment.attempt_sure _) hsteady
  have hends : (t.sync horizon bundle schedule).run.Ends (schedule.maxAttempts - 1) := by
    rw [Target.sync_eq]
    exact Retry.onConflict_ends (fun _ => Amendment.attempt_ends _) hattempts
  obtain ⟨result, m, hcomes⟩ := hsure s
  match result with
  | .ok result => exact ⟨.ok result, m, hcomes⟩
  | .error (.panicked text) => exact ⟨.error text, m, hcomes⟩
  | .error .unfinished => exact absurd rfl (hcomes.not_unfinished hends)

/-- Each target is about to come to its outcome, and its store to what is left in the end; all other
stores are so already. -/
structure Bound (backend : Backend σ) (good : σ → Prop) (part : (i : ι) → σ → π i)
    (store : Kind → String → ι) (horizon : Nat) (bundle : Bytes) (schedule : Schedule)
    (outcome : Target → Except String (Except Error SyncOutcome)) (left : σ) (targets : List Target)
    (s : σ) : Prop where
  good : good s
  makes : ∀ t ∈ targets, (t.sync horizon bundle schedule).run.Makes backend part store left
    (t.store store) s ((outcome t).mapError .panicked)
  others : ∀ i, (∀ t ∈ targets, t.store store ≠ i) → part i s = part i left

/-- Scripts on the way, one for each target and each in a store of its own. -/
structure Separate (backend : Backend σ) (good : σ → Prop) (part : (i : ι) → σ → π i)
    (store : Kind → String → ι) (outcome : Target → Except String (Except Error SyncOutcome))
    (left : σ) (targets : List Target) (ps : List (Script (Except Error SyncOutcome)))
    (s : σ) : Prop where
  length_eq : ps.length = targets.length
  good : good s
  scripts {i : Nat} {t : Target} {p : Script (Except Error SyncOutcome)} :
    targets[i]? = some t → ps[i]? = some p →
      p.Makes backend part store left (t.store store) s ((outcome t).mapError .panicked)
  others : ∀ i, (∀ t ∈ targets, t.store store ≠ i) → part i s = part i left

theorem Bound.separate
    (H : Bound backend good part store horizon bundle schedule outcome left targets s) :
    Separate backend good part store outcome left targets
      (targets.map fun t => (t.sync horizon bundle schedule).run) s where
  length_eq := List.length_map _
  good := H.good
  scripts ht hp := by
    rw [List.getElem?_map, ht] at hp
    cases hp
    exact H.makes _ (List.mem_of_getElem? ht)
  others := H.others

theorem Bound.perm (horder : targets.Perm order)
    (H : Bound backend good part store horizon bundle schedule outcome left targets s) :
    Bound backend good part store horizon bundle schedule outcome left order s where
  good := H.good
  makes t ht := H.makes t (horder.mem_iff.2 ht)
  others i hi := H.others i fun t ht => hi t (horder.mem_iff.1 ht)

section Parted

variable (hparted : backend.Parted good part store)
include hparted

/-- Whatever the stores hold, there is something that the targets come to. -/
theorem exists_bound (hstores : (targets.map (Target.store store)).Nodup) (hs : good s)
    (hattempts : schedule.maxAttempts ≠ 0)
    (hsteady : schedule.Steady Binary64.Fraction (Retry.rounds horizon schedule)
      schedule.initialDelay) :
    ∃ outcome left, Bound backend good part store horizon bundle schedule outcome left targets
      s := by
  induction targets generalizing s with
  | nil => exact ⟨fun _ => .error "", s, hs, nofun, fun _ _ => rfl⟩
  | cons t rest ih =>
    obtain ⟨hfresh, hrest⟩ := List.nodup_cons.1 hstores
    have hfresh : ∀ t' ∈ rest, t'.store store ≠ t.store store := fun t' ht' h =>
      hfresh (List.mem_map.2 ⟨t', ht', h⟩)
    obtain ⟨result, m, hcomes⟩ := sync_comes (t := t) hattempts hsteady s
    obtain ⟨hm, hsame⟩ := hcomes.frame hparted sync_within hs
    obtain ⟨outcome, left, H⟩ := ih hrest hm
    refine ⟨Function.update outcome t result, left, hs, fun t' ht' => ?_, fun i hi => ?_⟩
    · by_cases h : t' = t
      · subst h
        rw [Function.update_self]
        exact ⟨sync_within, m, hcomes, H.others _ hfresh⟩
      · have ht' := (List.mem_cons.1 ht').resolve_left h
        rw [Function.update_of_ne h]
        exact (H.makes t' ht').of_part hparted hm hs (hsame _ (hfresh t' ht'))
    · obtain ⟨hi, hi'⟩ := List.forall_mem_cons.1 hi
      exact (hsame i hi.symm).symm.trans (H.others i hi')

/-- One after the other, in any order, the targets come to their outcomes. -/
theorem Bound.inTurn (hstores : (targets.map (Target.store store)).Nodup)
    (H : Bound backend good part store horizon bundle schedule outcome left targets w.objects)
    (hw : w.env.Fair) : ∃ e, inTurn backend horizon bundle schedule targets w =
      (targets.map fun t => (t, (outcome t).mapError .panicked), ⟨e, left⟩) := by
  induction targets generalizing w with
  | nil =>
    have hleft : w.objects = left := hparted.ext fun i => H.others i nofun
    exact ⟨w.env, by rw [← hleft]; rfl⟩
  | cons t rest ih =>
    obtain ⟨hfresh, hrest⟩ := List.nodup_cons.1 hstores
    have hfresh : ∀ t' ∈ rest, t'.store store ≠ t.store store := fun t' ht' h =>
      hfresh (List.mem_map.2 ⟨t', ht', h⟩)
    obtain ⟨hfirst, hlater⟩ := List.forall_mem_cons.1 H.makes
    obtain ⟨m, hcomes, hm⟩ := hfirst.comes
    obtain ⟨hgood, hsame⟩ := hcomes.frame hparted sync_within H.good
    obtain ⟨e, he, hrun⟩ := hcomes.run hw
    have hnext : Bound backend good part store horizon bundle schedule outcome left rest m := by
      refine ⟨hgood, fun t' ht' => ?_, fun i hi => ?_⟩
      · exact (hlater t' ht').of_part hparted H.good hgood (hsame _ (hfresh t' ht')).symm
      · by_cases h : i = t.store store
        · subst h
          exact hm
        · exact (hsame i h).trans (H.others i (List.forall_mem_cons.2 ⟨fun h' => h h'.symm, hi⟩))
    obtain ⟨e', hturns⟩ : ∃ e', Rotation.inTurn backend horizon bundle schedule rest ⟨e, m⟩ = _ :=
      ih hrest (w := ⟨e, m⟩) hnext he
    exact ⟨e', by simp only [Rotation.inTurn, hrun, hturns, List.map_cons]⟩

namespace Separate

/-- A request of one script leaves the stores of all others as they are. -/
theorem step (hstores : (targets.map (Target.store store)).Nodup)
    (H : Separate backend good part store outcome left targets ps w.objects) (hw : w.env.Fair)
    (hp : ps[i]? = some (.ask r next)) :
    Separate backend good part store outcome left targets
      (ps.set i (next (World.handler backend r w).1)) (World.handler backend r w).2.objects ∧
        (World.handler backend r w).2.env.Fair := by
  have hi : i < targets.length := by
    rw [← H.length_eq]
    exact (List.getElem?_eq_some_iff.1 hp).1
  have htarget : targets[i]? = some targets[i] := List.getElem?_eq_getElem hi
  obtain ⟨hasks, m, hcomes, hm⟩ := H.scripts htarget hp
  obtain ⟨hcomes, hw'⟩ := hcomes.ask hw
  have hnext : r.Possible (World.handler backend r w).1 → (next (World.handler backend r w).1).Asks
      (Request.Within fun k name => store k name = targets[i].store store) := hasks.2 _
  -- The request is a call on the store of its own target, or no call at all.
  obtain ⟨hpossible, hgood, hsame⟩ : r.Possible (World.handler backend r w).1 ∧
      good (World.handler backend r w).2.objects ∧ ∀ j ≠ targets[i].store store,
        part j (World.handler backend r w).2.objects = part j w.objects := by
    cases r with
    | store k c =>
      refine ⟨hparted.possible H.good, hparted.keeps H.good, fun j hj => hparted.others ?_⟩
      rintro rfl
      exact hj hasks.1
    | now | generate | chance | report | sleep => exact ⟨trivial, H.good, fun _ _ => rfl⟩
  refine ⟨⟨by rw [List.length_set, H.length_eq], hgood, fun {j t q} ht hq => ?_,
    fun j hj => ?_⟩, hw'⟩
  · by_cases hij : i = j
    · subst hij
      rw [List.getElem?_set_self (List.getElem?_eq_some_iff.1 hp).1] at hq
      cases htarget.symm.trans ht
      cases hq
      exact ⟨hnext hpossible, m, hcomes, hm⟩
    · rw [List.getElem?_set_ne hij] at hq
      have hne : t.store store ≠ targets[i].store store := by
        intro h
        have hj : (targets.map (Target.store store))[j]? =
            (targets.map (Target.store store))[i]? := by
          rw [List.getElem?_map, List.getElem?_map, ht, htarget, Option.map_some, Option.map_some, h]
        exact hij ((List.getElem?_inj (by rwa [List.length_map]) hstores).1 hj.symm)
      exact (H.scripts ht hq).of_part hparted H.good hgood (hsame _ hne).symm
  · have hne : j ≠ targets[i].store store := fun h =>
      hj targets[i] (List.getElem_mem hi) h.symm
    exact (hsame j hne).trans (H.others j hj)

theorem interleaves (hstores : (targets.map (Target.store store)).Nodup)
    (H : Separate backend good part store outcome left targets ps w.objects) (hw : w.env.Fair)
    (hsteps : Interleaves (Script.answered (World.handler backend)) ps w qs w') :
    Separate backend good part store outcome left targets qs w'.objects := by
  induction hsteps with
  | rest => exact H
  | step hp hanswered _ ih =>
    obtain ⟨rfl, rfl⟩ := hanswered
    obtain ⟨H, hw⟩ := H.step hparted hstores hw hp
    exact ih H hw

/-- Scripts that have all ended have come to their outcomes, and the stores are as they are left. -/
theorem results {outcomes : List (Except String (Except Error SyncOutcome))}
    (H : Separate backend good part store outcome left targets
      (outcomes.map fun o => ofResult (o.mapError .panicked)) s) :
    targets.map outcome = outcomes ∧ s = left := by
  have hlength := H.length_eq
  rw [List.length_map] at hlength
  have hended {i : Nat} (hi : i < targets.length) (ho : i < outcomes.length) :
      outcome targets[i] = outcomes[i] ∧
        part (targets[i].store store) s = part (targets[i].store store) left := by
    have hp : (outcomes.map fun o => ofResult (o.mapError .panicked))[i]? =
        some (ofResult (outcomes[i].mapError .panicked)) := by
      rw [List.getElem?_map, List.getElem?_eq_getElem ho, Option.map_some]
    obtain ⟨-, t, hcomes, ht⟩ := H.scripts (List.getElem?_eq_getElem hi) hp
    generalize outcome targets[i] = o, outcomes[i] = o' at hcomes ⊢
    match o, o' with
    | .ok a, .ok a' | .error a, .error a' =>
      obtain ⟨hresult, rfl⟩ := hcomes
      cases hresult
      exact ⟨rfl, ht⟩
    | .ok a, .error text | .error text, .ok a => cases hcomes.1
  refine ⟨List.ext_getElem (by simp [hlength]) fun i hi ho => ?_, hparted.ext fun j => ?_⟩
  · rw [List.getElem_map]
    exact (hended _ ho).1
  · by_cases hj : ∃ t ∈ targets, t.store store = j
    · obtain ⟨t, ht, rfl⟩ := hj
      obtain ⟨i, hi, rfl⟩ := List.mem_iff_getElem.1 ht
      exact (hended hi (hlength ▸ hi)).2
    · exact H.others j fun t ht h => hj ⟨t, ht, h⟩

end Separate

/-- Side by side the targets come to their outcomes. -/
theorem Bound.propagate (hstores : (targets.map (Target.store store)).Nodup)
    (hattempts : schedule.maxAttempts ≠ 0)
    (H : Bound backend good part store horizon bundle schedule outcome left targets w.objects)
    (hw : w.env.Fair) : ∃ e,
      (Rotation.propagate horizon targets bundle schedule).run.run (World.handler backend) w =
        (.ok (gather (targets.map fun t => (t, joined (outcome t)))), ⟨e, left⟩) := by
  -- The targets side by side, and what becomes of their results.
  show ∃ e, (Script.together (Retry.rounds horizon schedule)
    (targets.map fun t => (t.sync horizon bundle schedule).run) >>= fun results =>
      pure (gather (targets.zip (results.map joined)))).run (World.handler backend) w = _
  have hfollows := Script.follows_run (World.handler backend)
    (Script.together (Retry.rounds horizon schedule)
      (targets.map fun t => (t.sync horizon bundle schedule).run)) w
  rw [Script.run_bind]
  generalize Script.run (World.handler backend) _ w = final at hfollows ⊢
  obtain ⟨result, e, objects⟩ := final
  obtain ⟨qs, hsteps, ⟨outcomes, rfl, rfl⟩ | rfl⟩ := hfollows.together
  · obtain ⟨rfl, rfl⟩ : targets.map outcome = outcomes ∧ objects = left :=
      (H.separate.interleaves hparted hstores hw hsteps).results hparted
    have hzip : targets.map (fun t => (t, joined (outcome t))) =
        targets.zip ((targets.map outcome).map joined) := by
      rw [List.map_map]
      exact List.map_prod_left_eq_zip
    rw [hzip]
    exact ⟨e, rfl⟩
  · exact absurd rfl ((syncs_finish hattempts).not_unfinished hfollows)

end Parted

end Rotation

/-! ## Stores of their own -/

/-- What a cluster answers can be answered in some scene. -/
theorem Cluster.answers_backend {c : Cluster} (hc : ∀ k, (c.stores k).Sound) (k : Kind)
    (call : Call k.Object) : ∃ m : Scene,
      m.Answers (.store k call) (backend k call c).1 (backend k call c).2.stores := by
  let w : World Cluster := { env := { clock := ⟨0, 0⟩, source := .queue [] }, objects := c }
  obtain ⟨sound, -⟩ := @World.outside_met w hc [] (.store k call)
  let m : Scene := ⟨w.met (.store k call), sound, w.env.clock, []⟩
  exact ⟨m, World.answers_handler (w := w) (s := m) rfl rfl⟩

/-- In a cluster every kind of objects has a store of its own. -/
theorem Cluster.parted : Cluster.backend.Parted (fun c => ∀ k, (c.stores k).Sound)
    (fun k c => c.site k) fun k _ => k where
  ext {s t} h := by
    cases s
    cases t
    simp only [mk.injEq]
    exact ⟨h .secret, h (.webhook .mutating), h (.webhook .validating)⟩
  answer {s t k c} h := by
    have h : s.site k = t.site k := h
    simp only [backend, h]
  own {s t k c} h := by
    have h : s.site k = t.site k := h
    simp only [backend, site_withSite_self, h]
  others h := site_withSite_of_ne _ _ h
  keeps {s k c} hs := by
    obtain ⟨m, hanswer⟩ := answers_backend hs k c
    exact fun k' => (hanswer.drift k').sound (m.sound k')
  possible {s k c} hs := by
    obtain ⟨m, hanswer⟩ := answers_backend hs k c
    exact hanswer.possible

/-- Any number of clusters. The kind and the name of an object say which of them it is in. -/
def Cluster.backends {ι : Type} [DecidableEq ι] (place : Kind → String → ι) :
    Backend (ι → Cluster) := fun k c s =>
  let (answer, cluster) := backend k c (s (place k c.name))
  (answer, Function.update s (place k c.name) cluster)

/-- What is in different clusters is in different stores. -/
theorem Cluster.parted_backends {ι : Type} [DecidableEq ι] (place : Kind → String → ι) :
    (backends place).Parted (fun s => ∀ i k, ((s i).stores k).Sound) (fun i s => s i) place where
  ext h := funext h
  answer {s t k c} h := by
    have h : s (place k c.name) = t (place k c.name) := h
    simp only [backends, h]
  own {s t k c} h := by
    have h : s (place k c.name) = t (place k c.name) := h
    simp only [backends, Function.update_self, h]
  others h := Function.update_of_ne h _ _
  keeps {s k c} hs i := by
    by_cases hi : i = place k c.name
    · subst hi
      simp only [backends, Function.update_self]
      exact parted.keeps (hs _)
    · simp only [backends, Function.update_of_ne hi]
      exact hs i
  possible hs := parted.possible (hs _)

namespace Rotation

variable {σ ι : Type} {π : ι → Type} {backend : Backend σ} {good : σ → Prop}
  {part : (i : ι) → σ → π i} {store : Kind → String → ι} {horizon : Nat} {bundle : Bytes}
  {targets : List Target}

/-- Whatever fractions are drawn, the targets come to the outcomes and leave the state: side by side,
where all of them are waited for; in any other way in which their requests may be interleaved; and
each alone, one after the other in any order. -/
structure Uniform (backend : Backend σ) (horizon : Nat) (bundle : Bytes) (schedule : Schedule)
    (targets : List Target) (objects : σ)
    (outcome : Target → Except String (Except Error SyncOutcome)) (left : σ) : Prop where
  sideBySide {e : Environment} : e.Fair → ∃ e',
    (propagate horizon targets bundle schedule).run.run (World.handler backend) ⟨e, objects⟩ =
      (.ok (gather (targets.map fun t => (t, joined (outcome t)))), ⟨e', left⟩)
  interleaved {e : Environment} {outcomes : List (Except String (Except Error SyncOutcome))}
    {w : World σ} : e.Fair → Interleaves (Script.answered (World.handler backend))
      (targets.map fun t => (t.sync horizon bundle schedule).run) ⟨e, objects⟩
      (outcomes.map fun o => ofResult (o.mapError .panicked)) w →
    targets.map outcome = outcomes ∧ w.objects = left
  inTurn {order : List Target} {e : Environment} : order.Perm targets → e.Fair → ∃ e',
    inTurn backend horizon bundle schedule order ⟨e, objects⟩ =
      (order.map fun t => (t, (outcome t).mapError .panicked), ⟨e', left⟩)

/-- For targets in stores of their own it makes no difference whether they are tended side by side or
one after the other, in which order, and how long they sleep: the result is the same, and so is all
that is left in the stores. -/
theorem propagate_separate (hparted : backend.Parted good part store)
    (hstores : (targets.map (Target.store store)).Nodup) (settings : Settings)
    (hattempts : settings.conflictAttempts ≠ 0) {objects : σ} (hobjects : good objects) :
    ∃ outcome left, Uniform backend horizon bundle settings.schedule targets objects outcome
      left := by
  obtain ⟨outcome, left, H⟩ : ∃ outcome left, Bound backend good part store horizon bundle
      settings.schedule outcome left targets objects :=
    exists_bound hparted hstores hobjects hattempts (settings.steady_schedule _)
  refine ⟨outcome, left, fun {e} he => ?_, fun {e outcomes w} he hsteps => ?_,
    fun {order e} horder he => ?_⟩
  · exact Bound.propagate hparted hstores hattempts (w := ⟨e, objects⟩) H he
  · exact (Separate.interleaves hparted hstores H.separate he hsteps).results hparted
  · refine Bound.inTurn hparted ?_ (w := ⟨e, objects⟩) (H.perm horder.symm) he
    exact (horder.map _).nodup_iff.2 hstores

/-- Two configurations of one kind and one of the other, each in a cluster of its own. -/
def scattered : List Target :=
  [⟨.mutating, "first"⟩, ⟨.mutating, "second"⟩, ⟨.validating, "third"⟩]

/-- Whoever reads the first configuration breaks off; writes of the second meet two conflicts; and
another writer writes the third before it is written. -/
def stormy : Kind × String → Cluster
  | (.webhook .mutating, "first") =>
    { mutating := { store := .filled [Sample.configuration "first"]
                    weather := { reads := [.panic "storm"] } } }
  | (.webhook .mutating, name) =>
    { mutating := { store := { Store.filled [Sample.configuration name] with
        pendingConflicts := 2 } } }
  | (_, name) =>
    { validating := { store := .filled [Sample.configuration name]
                      weather := { writes := [.race (Sample.configuration name)] } } }

theorem sound_stormy (i : Kind × String) (k : Kind) : ((stormy i).stores k).Sound := by
  have filled (name : String) : (Store.filled [Sample.configuration name]).Sound :=
    Store.sound_filled _
  unfold stormy
  split
  · match k with
    | .webhook .mutating => exact filled _
    | .secret | .webhook .validating => exact Store.sound_empty
  · match k with
    | .webhook .mutating => exact ⟨(filled _).name, (filled _).version⟩
    | .secret | .webhook .validating => exact Store.sound_empty
  · match k with
    | .webhook .validating => exact filled _
    | .secret | .webhook .mutating => exact Store.sound_empty

theorem propagate_separate_stormy : ∃ outcome left,
    Uniform (Cluster.backends Prod.mk) 1 [1, 2] ({} : Settings).schedule scattered stormy outcome
      left ∧
    scattered.map (fun t => decide (Script.WentWell ((outcome t).mapError .panicked))) =
      [false, true, true] := by
  obtain ⟨outcome, left, H⟩ : ∃ outcome left, Uniform (Cluster.backends Prod.mk) 1 [1, 2]
      ({} : Settings).schedule scattered stormy outcome left :=
    propagate_separate (Cluster.parted_backends Prod.mk) (by decide) {} (by decide) sound_stormy
  have hresults : (inTurn (Cluster.backends Prod.mk) 1 [1, 2] ({} : Settings).schedule scattered
      ⟨{ clock := ⟨0, 0⟩, source := .queue [] }, stormy⟩).1.map
        (fun r => decide (Script.WentWell r.2)) = [false, true, true] := by
    decide +kernel
  obtain ⟨e', hrun⟩ := H.inTurn (.refl _) (e := { clock := ⟨0, 0⟩, source := .queue [] }) nofun
  rw [hrun, List.map_map] at hresults
  exact ⟨outcome, left, H, hresults⟩

end Rotation

end TrustAnchor
