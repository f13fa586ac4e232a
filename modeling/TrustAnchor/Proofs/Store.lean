import TrustAnchor.Cluster
import TrustAnchor.Proofs.KeyMap

/-! What can become of a store. Every write gives its object a version that no object had before,
so an object that is found twice at one version has not been written in between. -/

namespace TrustAnchor

theorem eq_of_repr_eq {m n : Nat} (h : m.repr = n.repr) : m = n := by
  have hdigits := congrArg String.toList h
  rw [Nat.toList_repr, Nat.toList_repr] at hdigits
  calc
    m = Nat.ofDigitChars 10 (Nat.toDigits 10 m) 0 := Nat.ofDigitChars_ten_toDigits.symm
    _ = Nat.ofDigitChars 10 (Nat.toDigits 10 n) 0 := by rw [hdigits]
    _ = n := Nat.ofDigitChars_ten_toDigits

namespace Resource

variable {α : Type} [Resource α] {x y : α} {n : Nat}

@[simp] theorem anyName_withVersion : anyName (withVersion x n) = anyName x := by
  simp [anyName, withVersion, metadata_withMetadata, Metadata.anyName, Metadata.withVersion]

@[simp] theorem version_withVersion : version (withVersion x n) = some n.repr := by
  simp [version, withVersion, metadata_withMetadata, Metadata.withVersion]

@[simp] theorem anyName_named {name : String} {namespaceName : Option String} :
    anyName (named name namespaceName : α) = name := by
  simp [anyName, named, metadata_withMetadata, Metadata.anyName]

theorem anyName_of_metadata (h : metadata x = metadata y) : anyName x = anyName y :=
  congrArg Metadata.anyName h

theorem version_of_metadata (h : metadata x = metadata y) : version x = version y :=
  congrArg Metadata.version h

end Resource

/-- What another writer does to the objects of a kind. -/
inductive Deed (α : Type) where
  | write (x : α)
  | remove (name : String)

def Deed.name {α : Type} [Resource α] : Deed α → String
  | .write x => Resource.anyName x
  | .remove name => name

namespace Store

variable {α : Type} [Resource α]

/-- The store without the object of a name. -/
def remove (s : Store α) (name : String) : Store α := { s with objects := s.objects.erase name }

def suffer (s : Store α) : Deed α → Store α
  | .write x => s.insert x
  | .remove name => s.remove name

/-- Every object stands under its own name, at a version that was given before. -/
structure Sound (s : Store α) : Prop where
  name : ∀ {name x}, s.objects.get? name = some x → Resource.anyName x = name
  version : ∀ {name x}, s.objects.get? name = some x →
    ∃ v < s.nextVersion, Resource.version x = some v.repr

/-- The objects and the next version are the same; counts may have changed. -/
structure Alike (s t : Store α) : Prop where
  objects : t.objects = s.objects
  nextVersion : t.nextVersion = s.nextVersion

/-- The object has been put in at the next version. -/
structure Gains (s : Store α) (x : α) (t : Store α) : Prop where
  objects : t.objects =
    s.objects.insert (Resource.anyName x) (Resource.withVersion x s.nextVersion)
  nextVersion : t.nextVersion = s.nextVersion + 1

/-- What may happen to a store: objects go, or come at versions that were not given before. -/
structure Drift (s t : Store α) : Prop where
  nextVersion : s.nextVersion ≤ t.nextVersion
  object : ∀ {name x}, t.objects.get? name = some x → s.objects.get? name = some x ∨
    Resource.anyName x = name ∧
      ∃ v, s.nextVersion ≤ v ∧ v < t.nextVersion ∧ Resource.version x = some v.repr

variable {s t u : Store α} {name : String} {x y : α} {found : Option α}

theorem sound_empty : ({} : Store α).Sound where
  name h := by simp at h
  version h := by simp at h

namespace Alike

omit [Resource α] in
theorem refl (s : Store α) : s.Alike s := ⟨rfl, rfl⟩

omit [Resource α] in
theorem trans (H : s.Alike t) (K : t.Alike u) : s.Alike u :=
  ⟨K.objects.trans H.objects, K.nextVersion.trans H.nextVersion⟩

theorem drift (H : s.Alike t) : s.Drift t where
  nextVersion := H.nextVersion.ge
  object h := .inl (H.objects ▸ h)

end Alike

theorem Alike.gains (H : s.Alike t) (K : t.Gains x u) : s.Gains x u where
  objects := by rw [K.objects, H.objects, H.nextVersion]
  nextVersion := by rw [K.nextVersion, H.nextVersion]

namespace Gains

theorem get?_self (H : s.Gains x t) :
    t.objects.get? (Resource.anyName x) = some (Resource.withVersion x s.nextVersion) := by
  rw [H.objects, KeyMap.get?_insert_self]

theorem get?_of_ne (H : s.Gains x t) (h : name ≠ Resource.anyName x) :
    t.objects.get? name = s.objects.get? name := by
  rw [H.objects, KeyMap.get?_insert_of_ne h]

theorem drift (H : s.Gains x t) : s.Drift t where
  nextVersion := by rw [H.nextVersion]; exact Nat.le_succ _
  object {name y} h := by
    by_cases hn : name = Resource.anyName x
    · subst hn
      rw [H.get?_self] at h
      cases h
      refine .inr ⟨Resource.anyName_withVersion, s.nextVersion, Nat.le_refl _, ?_,
        Resource.version_withVersion⟩
      rw [H.nextVersion]
      exact Nat.lt_succ_self _
    · exact .inl (H.get?_of_ne hn ▸ h)

end Gains

namespace Drift

theorem refl (s : Store α) : s.Drift s := (Alike.refl s).drift

theorem trans (H : s.Drift t) (K : t.Drift u) : s.Drift u where
  nextVersion := H.nextVersion.trans K.nextVersion
  object h := by
    rcases K.object h with h | ⟨hn, v, hv, hlt, hx⟩
    · rcases H.object h with h | ⟨hn, v, hv, hlt, hx⟩
      · exact .inl h
      · exact .inr ⟨hn, v, hv, hlt.trans_le K.nextVersion, hx⟩
    · exact .inr ⟨hn, v, H.nextVersion.trans hv, hlt, hx⟩

theorem sound (H : s.Drift t) (hs : s.Sound) : t.Sound where
  name h := by
    rcases H.object h with h | ⟨hn, -⟩
    · exact hs.name h
    · exact hn
  version h := by
    rcases H.object h with h | ⟨-, v, -, hlt, hx⟩
    · obtain ⟨v, hlt, hx⟩ := hs.version h
      exact ⟨v, hlt.trans_le H.nextVersion, hx⟩
    · exact ⟨v, hlt, hx⟩

/-- An object that is found again at its old version is the same object. -/
theorem eq_of_version (H : s.Drift t) (hs : s.Sound) (hx : s.objects.get? name = some x)
    (hy : t.objects.get? name = some y) (h : Resource.version x = Resource.version y) : y = x := by
  rcases H.object hy with hy | ⟨-, v, hv, -, hvy⟩
  · exact Option.some.inj (hy.symm.trans hx)
  · obtain ⟨w, hw, hwx⟩ := hs.version hx
    rw [hwx, hvy] at h
    have := eq_of_repr_eq (Option.some.inj h)
    omega

end Drift

theorem gains_put (s : Store α) (x : α) :
    s.Gains x (s.put (Resource.withVersion x s.nextVersion)) where
  objects := by simp [put]
  nextVersion := rfl

theorem drift_suffer (s : Store α) (d : Deed α) : s.Drift (s.suffer d) := by
  cases d with
  | write x => exact (gains_put s x).drift
  | remove name =>
    refine ⟨Nat.le_refl _, fun {other y} h => .inl ?_⟩
    by_cases hn : other = name
    · subst hn
      simp [suffer, remove] at h
    · exact (KeyMap.get?_erase_of_ne hn).symm.trans h

theorem get?_suffer_of_ne {d : Deed α} (h : name ≠ d.name) :
    (s.suffer d).objects.get? name = s.objects.get? name := by
  cases d with
  | write x => exact (gains_put s x).get?_of_ne h
  | remove other => exact KeyMap.get?_erase_of_ne h

omit [Resource α] in
theorem alike_get (s : Store α) (name : String) : s.Alike (s.get name).2 := by
  unfold get
  dsimp only
  split <;> exact ⟨rfl, rfl⟩

omit [Resource α] in
theorem get_answer (s : Store α) (name : String) :
    (s.get name).1 = .ok (s.objects.get? name) ∨ ∃ e, (s.get name).1 = .error e := by
  unfold get
  dsimp only
  split
  · exact .inr ⟨_, rfl⟩
  · exact .inl rfl

omit [Resource α] in
theorem found_of_get (h : (s.get name).1 = .ok found) : found = s.objects.get? name := by
  rcases s.get_answer name with hanswer | ⟨e, hanswer⟩
  · cases hanswer.symm.trans h
    rfl
  · cases hanswer.symm.trans h

omit [Resource α] in
theorem get_of_reads (h : s.readFailure = none) : (s.get name).1 = .ok (s.objects.get? name) := by
  rw [get]
  simp only [h]

omit [Resource α] in
theorem reads_of_get (h : (s.get name).1 = .ok found) : s.readFailure = none := by
  rw [get] at h
  cases hreads : s.readFailure with
  | none => rfl
  | some code => simp [hreads] at h

omit [Resource α] in
theorem alike_admitWrite (s : Store α) : s.Alike s.admitWrite.2 := by
  unfold admitWrite
  split <;> exact ⟨rfl, rfl⟩

theorem Alike.gains_write (H : s.Alike t) (x : α) : s.Gains x (t.write x).2 where
  objects := by simp [write, put, H.objects, H.nextVersion]
  nextVersion := by simp [write, put, H.nextVersion]

/-- How a creation ends. -/
theorem create_cases (s : Store α) (x : α) :
    (∃ e, (s.create x).1 = .error e) ∧ s.Alike (s.create x).2 ∨
      (s.create x).1 = .ok (Resource.withVersion x s.nextVersion) ∧
        s.objects.get? (Resource.anyName x) = none ∧ s.Gains x (s.create x).2 := by
  have halike := s.alike_admitWrite
  unfold create
  cases hgranted : s.admitWrite with
  | mk answer t =>
    rw [hgranted] at halike
    cases answer with
    | error e => exact .inl ⟨⟨e, rfl⟩, halike⟩
    | ok =>
      dsimp only
      split
      · exact .inl ⟨⟨_, rfl⟩, halike⟩
      · rename_i habsent
        refine .inr ⟨?_, ?_, halike.gains_write x⟩
        · rw [← halike.nextVersion]
          rfl
        · rw [← halike.objects]
          simpa [KeyMap.contains] using habsent

/-- How a replacement ends. -/
theorem replace_cases (s : Store α) (x : α) :
    (∃ e, (s.replace x).1 = .error e) ∧ s.Alike (s.replace x).2 ∨
      (s.replace x).1 = .ok (Resource.withVersion x s.nextVersion) ∧
        (∃ current, s.objects.get? (Resource.anyName x) = some current ∧
          Resource.version x = Resource.version current) ∧ s.Gains x (s.replace x).2 := by
  have halike := s.alike_admitWrite
  unfold replace
  cases hgranted : s.admitWrite with
  | mk answer t =>
    rw [hgranted] at halike
    cases answer with
    | error e => exact .inl ⟨⟨e, rfl⟩, halike⟩
    | ok =>
      dsimp only
      split
      · exact .inl ⟨⟨_, rfl⟩, halike⟩
      · rename_i current hcurrent
        split
        · exact .inl ⟨⟨_, rfl⟩, halike⟩
        · rename_i hversion
          refine .inr ⟨?_, ⟨current, ?_, not_not.1 hversion⟩, halike.gains_write x⟩
          · rw [← halike.nextVersion]
            rfl
          · rw [← halike.objects, hcurrent]

/-- How any call ends: only a write that succeeds leaves something new, and that at the name
called. -/
theorem perform_cases (s : Store α) (c : Call α) :
    s.Alike (Site.perform s c).2 ∨
      ∃ x, Resource.anyName x = c.name ∧ s.Gains x (Site.perform s c).2 := by
  cases c with
  | get name => exact .inl (s.alike_get name)
  | create x =>
    rcases s.create_cases x with ⟨-, H⟩ | ⟨-, -, H⟩
    · exact .inl H
    · exact .inr ⟨x, rfl, H⟩
  | replace x =>
    rcases s.replace_cases x with ⟨-, H⟩ | ⟨-, -, H⟩
    · exact .inl H
    · exact .inr ⟨x, rfl, H⟩

theorem drift_perform (s : Store α) (c : Call α) : s.Drift (Site.perform s c).2 := by
  rcases s.perform_cases c with H | ⟨x, -, H⟩
  · exact H.drift
  · exact H.drift

theorem get?_perform_of_ne {c : Call α} (h : name ≠ c.name) :
    (Site.perform s c).2.objects.get? name = s.objects.get? name := by
  rcases s.perform_cases c with H | ⟨x, hx, H⟩
  · rw [H.objects]
  · exact H.get?_of_ne (hx ▸ h)

end Store

end TrustAnchor
