import TrustAnchor.Proofs.Store
import Mathlib.Logic.Function.Basic
import Mathlib.Logic.Relation

/-! What a script finds around it. A scene is what the stores hold, what the clock shows, and all
that has happened so far. Others may do to the stores whatever they like; a call may be refused, or
broken off, at any time and without a trace in the stores. -/

namespace TrustAnchor

/-- The stores of all kinds. -/
abbrev Stores := (k : Kind) → Store k.Object

namespace Stores

/-- All objects and all next versions are the same. -/
def Alike (S T : Stores) : Prop := ∀ k, (S k).Alike (T k)

/-- An object has been put in at the next version of its store, and nothing else has changed. -/
structure Gains (S : Stores) (k : Kind) (x : k.Object) (T : Stores) : Prop where
  gains : (S k).Gains x (T k)
  others : ∀ k' ≠ k, (S k').Alike (T k')

variable {S T U : Stores} {k : Kind} {store : Store k.Object}

theorem Alike.refl (S : Stores) : S.Alike S := fun k => Store.Alike.refl (S k)

theorem Alike.trans (H : S.Alike T) (K : T.Alike U) : S.Alike U := fun k => (H k).trans (K k)

theorem alike_update (H : (S k).Alike store) : S.Alike (Function.update S k store) := by
  intro k'
  by_cases hk : k' = k
  · subst hk
    rwa [Function.update_self]
  · rw [Function.update_of_ne hk]
    exact .refl _

theorem gains_update {x : k.Object} (H : (S k).Gains x store) :
    S.Gains k x (Function.update S k store) where
  gains := by rwa [Function.update_self]
  others k' hk := by
    rw [Function.update_of_ne hk]
    exact .refl _

theorem Alike.gains {x : k.Object} (H : S.Alike T) (K : T.Gains k x U) : S.Gains k x U where
  gains := (H k).gains K.gains
  others k' hk := (H k').trans (K.others k' hk)

end Stores

/-- What happened. -/
inductive Event where
  /-- Another writer did something. -/
  | deed (k : Kind) (d : Deed k.Object)
  /-- The script made a request; the stores are those that the request met. -/
  | request (before : Stores) (r : Request) (answer : Except String r.Answer)

/-- All that has happened, the newest first. -/
abbrev History := List Event

structure Scene where
  stores : Stores
  sound : ∀ k, (stores k).Sound
  /-- A pass looks at the clock once, so the clock may stand still. -/
  clock : Instant
  past : History

/-- The request is a call on the object of a kind and a name. -/
def Request.On (k : Kind) (name : String) : Request → Prop
  | .store k' c => k' = k ∧ c.name = name
  | _ => False

instance (k : Kind) (name : String) : (r : Request) → Decidable (r.On k name)
  | .store k' c => inferInstanceAs (Decidable (k' = k ∧ c.name = name))
  | .now | .generate _ | .chance | .report _ | .sleep _ => isFalse id

/-- The request could get the answer from stores whose objects stand under their own names. -/
def Request.Possible : (r : Request) → Except String r.Answer → Prop
  | .store _ (.get name), .ok (.ok (some x)) => Resource.anyName x = name
  | .store _ (.create x), .ok (.ok y) => ∃ n, y = Resource.withVersion x n
  | .store _ (.replace x), .ok (.ok y) => ∃ n, y = Resource.withVersion x n
  | _, _ => True

/-- Another writer's deed on the object of a kind and a name. -/
def Event.DeedOn (k : Kind) (name : String) : Event → Prop
  | .deed k' d => k' = k ∧ d.name = name
  | .request .. => False

instance (k : Kind) (name : String) : (e : Event) → Decidable (e.DeedOn k name)
  | .deed k' d => inferInstanceAs (Decidable (k' = k ∧ d.name = name))
  | .request .. => isFalse id

namespace Scene

def object (s : Scene) (k : Kind) (name : String) : Option k.Object :=
  (s.stores k).objects.get? name

theorem drift_suffer (s : Scene) (k : Kind) (d : Deed k.Object) (k' : Kind) :
    (s.stores k').Drift (Function.update s.stores k ((s.stores k).suffer d) k') := by
  by_cases hk : k' = k
  · subst hk
    rw [Function.update_self]
    exact (s.stores k').drift_suffer d
  · rw [Function.update_of_ne hk]
    exact .refl _

/-- Another writer does something. -/
def suffer (s : Scene) (k : Kind) (d : Deed k.Object) : Scene where
  stores := Function.update s.stores k ((s.stores k).suffer d)
  sound k' := (s.drift_suffer k d k').sound (s.sound k')
  clock := s.clock
  past := .deed k d :: s.past

/-- Others do any number of deeds. -/
def Outside : Scene → Scene → Prop :=
  Relation.ReflTransGen fun s t => ∃ k d, t = s.suffer k d

/-- The answers that a request can get in a scene, with the stores that it leaves. -/
inductive Answers (s : Scene) : (r : Request) → Except String r.Answer → Stores → Prop
  | performed (k : Kind) (c : Call k.Object) :
    Answers s (.store k c) (.ok (Site.perform (s.stores k) c).1)
      (Function.update s.stores k (Site.perform (s.stores k) c).2)
  | refused (k : Kind) (c : Call k.Object) (e : Error) :
    Answers s (.store k c) (.ok (Site.refuse e c)) s.stores
  | panicked (k : Kind) (c : Call k.Object) (text : String) :
    Answers s (.store k c) (.error text) s.stores
  | now : Answers s .now (.ok s.clock) s.stores
  | generated (start : Instant) (answer : Except String (Except AuthorityError Authority)) :
    Answers s (.generate start) answer s.stores
  | chance (u : Binary64) : Answers s .chance (.ok u) s.stores
  | reported (setback : Setback) : Answers s (.report setback) (.ok ()) s.stores
  | slept (d : Duration) : Answers s (.sleep d) (.ok ()) s.stores

variable {s t u : Scene} {k : Kind} {name : String} {r : Request}
  {answer : Except String r.Answer} {stores : Stores}

theorem Answers.drift (H : s.Answers r answer stores) (k : Kind) :
    (s.stores k).Drift (stores k) := by
  cases H with
  | performed k' c =>
    by_cases hk : k = k'
    · subst hk
      rw [Function.update_self]
      exact (s.stores k).drift_perform c
    · rw [Function.update_of_ne hk]
      exact .refl _
  | _ => exact .refl _

/-- The scene after a request. -/
def after (s : Scene) (H : s.Answers r answer stores) : Scene where
  stores := stores
  sound k := (H.drift k).sound (s.sound k)
  clock := s.clock
  past := .request s.stores r answer :: s.past

variable {H : s.Answers r answer stores}

@[simp] theorem object_after : (s.after H).object k name = (stores k).objects.get? name := rfl

@[simp] theorem stores_after : (s.after H).stores = stores := rfl

namespace Outside

instance : IsPreorder Scene Outside where
  refl _ := .refl
  trans _ _ _ := .trans

/-- What every single deed keeps, any number of them keeps. -/
theorem keeps {J : Scene → Prop} (step : ∀ s k d, J s → J (s.suffer k d)) (H : Outside s t)
    (hs : J s) : J t := by
  induction H with
  | refl => exact hs
  | tail _ hstep ih =>
    obtain ⟨k, d, rfl⟩ := hstep
    exact step _ k d ih

theorem drift (H : Outside s t) (k : Kind) : (s.stores k).Drift (t.stores k) := by
  refine H.keeps (J := fun t => (s.stores k).Drift (t.stores k)) (fun t k' d ht => ?_) (.refl _)
  exact ht.trans (t.drift_suffer k' d k)

theorem clock_eq (H : Outside s t) : t.clock = s.clock :=
  H.keeps (J := fun t => t.clock = s.clock) (fun _ _ _ ht => ht) rfl

end Outside

theorem object_suffer {d : Deed k.Object} :
    (s.suffer k d).object k name = ((s.stores k).suffer d).objects.get? name := by
  simp only [object, suffer, Function.update_self]

theorem object_suffer_of_not {k' : Kind} {d : Deed k'.Object}
    (h : ¬ (Event.deed k' d).DeedOn k name) : (s.suffer k' d).object k name = s.object k name := by
  by_cases hk : k = k'
  · subst hk
    rw [object_suffer]
    exact Store.get?_suffer_of_ne fun hd => h ⟨rfl, hd.symm⟩
  · simp only [object, suffer, Function.update_of_ne hk]

namespace Answers

/-- A request does nothing to the objects that it is not about. -/
theorem object_eq (H : s.Answers r answer stores) (h : ¬ r.On k name) :
    (stores k).objects.get? name = s.object k name := by
  cases H with
  | performed k' c =>
    by_cases hk : k = k'
    · subst hk
      rw [Function.update_self]
      exact Store.get?_perform_of_ne fun hn => h ⟨rfl, hn.symm⟩
    · rw [Function.update_of_ne hk, object]
  | _ => rfl

theorem get {answer : Except String (Except Error (Option k.Object))}
    (H : s.Answers (.store k (.get name)) answer stores) :
    s.stores.Alike stores ∧ ∀ {found}, answer = .ok (.ok found) → s.object k name = found := by
  cases H with
  | performed =>
    refine ⟨Stores.alike_update ((s.stores k).alike_get name), fun {found} h => ?_⟩
    rcases (s.stores k).get_answer name with hget | ⟨e, hget⟩
    · rw [Site.perform, hget] at h
      cases h
      rfl
    · rw [Site.perform, hget] at h
      cases h
  | refused => exact ⟨.refl _, nofun⟩
  | panicked => exact ⟨.refl _, nofun⟩

theorem create {x : k.Object} {answer : Except String (Except Error k.Object)}
    (H : s.Answers (.store k (.create x)) answer stores) :
    (∀ {y}, answer ≠ .ok (.ok y)) ∧ s.stores.Alike stores ∨
      answer = .ok (.ok (Resource.withVersion x (s.stores k).nextVersion)) ∧
        s.object k (Resource.anyName x) = none ∧ s.stores.Gains k x stores := by
  cases H with
  | performed =>
    rcases (s.stores k).create_cases x with ⟨⟨e, he⟩, H⟩ | ⟨hok, habsent, H⟩
    · refine .inl ⟨fun {y} h => ?_, Stores.alike_update H⟩
      rw [Site.perform, he] at h
      cases h
    · exact .inr ⟨congrArg Except.ok hok, habsent, Stores.gains_update H⟩
  | refused => exact .inl ⟨nofun, .refl _⟩
  | panicked => exact .inl ⟨nofun, .refl _⟩

theorem replace {x : k.Object} {answer : Except String (Except Error k.Object)}
    (H : s.Answers (.store k (.replace x)) answer stores) :
    (∀ {y}, answer ≠ .ok (.ok y)) ∧ s.stores.Alike stores ∨
      answer = .ok (.ok (Resource.withVersion x (s.stores k).nextVersion)) ∧
        (∃ current, s.object k (Resource.anyName x) = some current ∧
          Resource.version x = Resource.version current) ∧ s.stores.Gains k x stores := by
  cases H with
  | performed =>
    rcases (s.stores k).replace_cases x with ⟨⟨e, he⟩, H⟩ | ⟨hok, hcurrent, H⟩
    · refine .inl ⟨fun {y} h => ?_, Stores.alike_update H⟩
      rw [Site.perform, he] at h
      cases h
    · exact .inr ⟨congrArg Except.ok hok, hcurrent, Stores.gains_update H⟩
  | refused => exact .inl ⟨nofun, .refl _⟩
  | panicked => exact .inl ⟨nofun, .refl _⟩

theorem possible (H : s.Answers r answer stores) : r.Possible answer := by
  match r, answer with
  | .store k (.get name), .ok (.ok (some x)) => exact (s.sound k).name (H.get.2 rfl)
  | .store k (.create x), .ok (.ok y) =>
    rcases H.create with ⟨hfails, -⟩ | ⟨hok, -⟩
    · exact absurd rfl hfails
    · cases hok
      exact ⟨_, rfl⟩
  | .store k (.replace x), .ok (.ok y) =>
    rcases H.replace with ⟨hfails, -⟩ | ⟨hok, -⟩
    · exact absurd rfl hfails
    · cases hok
      exact ⟨_, rfl⟩
  | .store k (.get name), .ok (.ok none) => trivial
  | .store k (.get name), .ok (.error e) => trivial
  | .store k (.create x), .ok (.error e) => trivial
  | .store k (.replace x), .ok (.error e) => trivial
  | .store k (.get name), .error text => trivial
  | .store k (.create x), .error text => trivial
  | .store k (.replace x), .error text => trivial
  | .now, _ => trivial
  | .generate _, _ => trivial
  | .chance, _ => trivial
  | .report _, _ => trivial
  | .sleep _, _ => trivial

/-- Only calls touch the stores. -/
theorem stores_eq (H : s.Answers r answer stores) (h : ∀ k name, ¬ r.On k name) :
    stores = s.stores := by
  cases H with
  | performed k c => exact absurd ⟨rfl, rfl⟩ (h k c.name)
  | _ => rfl

end Answers

end Scene

end TrustAnchor
