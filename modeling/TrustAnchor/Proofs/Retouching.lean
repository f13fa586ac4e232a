import TrustAnchor.Proofs.Scene

/-! Replacing content. Secrets and authorities can be replaced by others, wherever they occur: in
the stores, in requests and their answers, in what other writers do and in the past. As long as
names and versions stay as they are, a store does the same with what is put in as with what was
there. -/

namespace TrustAnchor

/-! ## Calls on a store -/

/-- The objects of a kind can be replaced so that a store does not notice. -/
structure Resource.Retouches {α : Type} [Resource α] (f : α → α) : Prop where
  metadata : ∀ x, Resource.metadata (f x) = Resource.metadata x
  withVersion : ∀ x n, f (Resource.withVersion x n) = Resource.withVersion (f x) n

namespace Call

variable {α : Type}

def map (f : α → α) : Call α → Call α
  | .get name => .get name
  | .create x => .create (f x)
  | .replace x => .replace (f x)

def mapAnswer (f : α → α) : (c : Call α) → c.Answer → (c.map f).Answer
  | .get _, answer => answer.map (Option.map f)
  | .create _, answer | .replace _, answer => answer.map f

variable {f : α → α} {c : Call α}

@[simp] theorem verb_map : (c.map f).verb = c.verb := by cases c <;> rfl

theorem name_map [Resource α] (hf : Resource.Retouches f) : (c.map f).name = c.name := by
  cases c with
  | get name => rfl
  | create x | replace x => exact Resource.anyName_of_metadata (hf.metadata x)

theorem mapAnswer_refuse {e : Error} :
    c.mapAnswer f (Site.refuse e c) = Site.refuse e (c.map f) := by
  cases c <;> rfl

end Call

def Deed.map {α : Type} (f : α → α) : Deed α → Deed α
  | .write x => .write (f x)
  | .remove name => .remove name

namespace Store

variable {α : Type} {f : α → α} {s : Store α} {x : α} {c : Call α}

/-- The store with other objects under the same names. -/
def map (f : α → α) (s : Store α) : Store α := { s with objects := s.objects.map f }

theorem map_id : s.map id = s := by
  have hobjects : s.objects.map id = s.objects := KeyMap.ext (List.map_id s.objects.entries)
  rw [map, hobjects]

@[simp] theorem get?_map {name : String} :
    (s.map f).objects.get? name = (s.objects.get? name).map f := KeyMap.get?_map

theorem get_map {name : String} : (s.map f).get name =
    ((s.get name).1.map (Option.map f), (s.get name).2.map f) := by
  simp only [get, map]
  cases s.readFailure with
  | none => simp [Except.map]
  | some code => rfl

theorem admitWrite_map : (s.map f).admitWrite = (s.admitWrite.1, s.admitWrite.2.map f) := by
  simp only [admitWrite, map]
  split <;> rfl

variable [Resource α] (hf : Resource.Retouches f)
include hf

theorem put_map : (s.put x).map f = (s.map f).put (f x) := by
  simp only [put, map, KeyMap.map_insert, Resource.anyName_of_metadata (hf.metadata x)]

theorem suffer_map {d : Deed α} : (s.suffer d).map f = (s.map f).suffer (d.map f) := by
  cases d with
  | write x =>
    simp only [suffer, insert, Deed.map, put_map hf, hf.withVersion]
    rfl
  | remove name => simp only [suffer, remove, Deed.map, map, KeyMap.map_erase]

theorem write_map : (s.map f).write (f x) = (f (s.write x).1, (s.write x).2.map f) := by
  have hput := put_map hf (s := s) (x := Resource.withVersion x s.nextVersion)
  rw [hf.withVersion] at hput
  simp only [write, hf.withVersion]
  exact congrArg (Prod.mk _ { · with writes := s.writes + 1 }) hput.symm

theorem create_map : (s.map f).create (f x) =
    ((s.create x).1.map f, (s.create x).2.map f) := by
  simp only [create, admitWrite_map]
  cases s.admitWrite with
  | mk answer t =>
    cases answer with
    | error e => rfl
    | ok =>
      have hthere : (t.map f).objects.contains (Resource.anyName (f x)) =
          t.objects.contains (Resource.anyName x) := by
        rw [Resource.anyName_of_metadata (hf.metadata x)]
        exact KeyMap.contains_map
      simp only [hthere, write_map hf]
      split <;> rfl

theorem replace_map : (s.map f).replace (f x) =
    ((s.replace x).1.map f, (s.replace x).2.map f) := by
  simp only [replace, admitWrite_map]
  cases s.admitWrite with
  | mk answer t =>
    cases answer with
    | error e => rfl
    | ok =>
      simp only [get?_map, Resource.anyName_of_metadata (hf.metadata x)]
      cases t.objects.get? (Resource.anyName x) with
      | none => rfl
      | some current =>
        simp only [Option.map_some, Resource.version_of_metadata (hf.metadata _), write_map hf]
        split <;> rfl

/-- A store answers to a call on what was replaced with what its answer was, replaced. -/
theorem perform_map : Site.perform (s.map f) (c.map f) =
    (c.mapAnswer f (Site.perform s c).1, (Site.perform s c).2.map f) := by
  cases c with
  | get name => exact get_map
  | create x => exact create_map hf
  | replace x => exact replace_map hf

theorem Sound.map (H : s.Sound) : (s.map f).Sound where
  name h := by
    obtain ⟨y, hy, rfl⟩ := Option.map_eq_some_iff.1 (get?_map.symm.trans h)
    exact (Resource.anyName_of_metadata (hf.metadata y)).trans (H.name hy)
  version h := by
    obtain ⟨y, hy, rfl⟩ := Option.map_eq_some_iff.1 (get?_map.symm.trans h)
    obtain ⟨v, hv, hversion⟩ := H.version hy
    exact ⟨v, hv, (Resource.version_of_metadata (hf.metadata y)).trans hversion⟩

end Store

/-! ## Scenes -/

theorem Scene.ext {s t : Scene} (hstores : s.stores = t.stores) (hclock : s.clock = t.clock)
    (hpast : s.past = t.past) : s = t := by
  obtain ⟨stores, sound, clock, past⟩ := s
  cases hstores
  cases hclock
  cases hpast
  rfl

/-- What is put in the place of secrets and of authorities. -/
structure Retouching where
  secret : Secret → Secret
  authority : Authority → Authority
  retouches : Resource.Retouches secret

namespace Retouching

variable (τ : Retouching)

def object : (k : Kind) → k.Object → k.Object
  | .secret => τ.secret
  | .webhook _ => id

theorem retouches_object : ∀ k : Kind, Resource.Retouches (τ.object k)
  | .secret => τ.retouches
  | .webhook _ => ⟨fun _ => rfl, fun _ _ => rfl⟩

def request : Request → Request
  | .store k c => .store k (c.map (τ.object k))
  | .now => .now
  | .generate start => .generate start
  | .chance => .chance
  | .report setback => .report setback
  | .sleep d => .sleep d

/-- What is answered to a request, if it was not broken off. -/
def reply : (r : Request) → r.Answer → (τ.request r).Answer
  | .store k c => c.mapAnswer (τ.object k)
  | .generate _ => Except.map τ.authority
  | .now | .chance | .report _ | .sleep _ => id

def answer (r : Request) : Except String r.Answer → Except String (τ.request r).Answer :=
  Except.map (τ.reply r)

def stores (S : Stores) : Stores := fun k => (S k).map (τ.object k)

def event : Event → Event
  | .deed k d => .deed k (d.map (τ.object k))
  | .request before r answer => .request (τ.stores before) (τ.request r) (τ.answer r answer)

def history (past : History) : History := past.map τ.event

def scene (s : Scene) : Scene where
  stores := τ.stores s.stores
  sound k := (s.sound k).map (τ.retouches_object k)
  clock := s.clock
  past := τ.history s.past

variable {τ} {s : Scene} {k : Kind} {name : String}

theorem stores_update {S : Stores} {store : Store k.Object} :
    τ.stores (Function.update S k store) =
      Function.update (τ.stores S) k (store.map (τ.object k)) := by
  funext k'
  by_cases hk : k' = k
  · subst hk
    simp only [stores, Function.update_self]
  · simp only [stores, Function.update_of_ne hk]

theorem stores_webhook {S : Stores} {kind : WebhookKind} :
    τ.stores S (.webhook kind) = S (.webhook kind) := Store.map_id

theorem object_scene : (τ.scene s).object k name = (s.object k name).map (τ.object k) :=
  Store.get?_map

theorem scene_suffer {d : Deed k.Object} :
    τ.scene (s.suffer k d) = (τ.scene s).suffer k (d.map (τ.object k)) := by
  refine Scene.ext ?_ rfl rfl
  show τ.stores (Function.update s.stores k ((s.stores k).suffer d)) = _
  rw [stores_update, Store.suffer_map (τ.retouches_object k)]
  rfl

end Retouching

end TrustAnchor
