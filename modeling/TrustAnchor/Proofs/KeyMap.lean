import TrustAnchor.KeyMap
import Mathlib.Data.List.Sort

/-! Looking up in key maps: what an insertion and a removal do to every key, and that a map is
determined by its look-ups. -/

namespace TrustAnchor

namespace Text

theorem listBefore_irrefl (a : List Char) : listBefore a a = false := by
  induction a with
  | nil => rfl
  | cons c a ih => simp [listBefore, ih]

theorem ne_of_before {s t : String} (h : before s t) : s ≠ t := by
  rintro rfl
  simp [before, listBefore_irrefl] at h

end Text

namespace KeyMap

variable {α : Type} {m n : KeyMap α} {key other : String} {x : α}

private theorem lookup_cons_eq (k : String) (y : α) (rest : List (String × α)) :
    ((k, y) :: rest).lookup key = if key = k then some y else rest.lookup key := by
  rw [List.lookup_cons]
  by_cases h : key = k
  · simp [h]
  · rw [beq_false_of_ne h, if_neg h]

@[simp] theorem get?_empty : (empty : KeyMap α).get? key = none := rfl

theorem lookup_insertEntry (entries : List (String × α)) :
    (insertEntry key x entries).lookup other =
      if other = key then some x else entries.lookup other := by
  induction entries with
  | nil => simp [insertEntry, lookup_cons_eq]
  | cons head rest ih =>
    obtain ⟨k, y⟩ := head
    rw [insertEntry]
    split
    · simp only [lookup_cons_eq]
    · split
      · rename_i hk
        subst hk
        simp only [lookup_cons_eq]
        split <;> rfl
      · rename_i hk
        simp only [lookup_cons_eq, ih]
        by_cases ho : other = key
        · simp [ho, hk]
        · simp [ho]

@[simp] theorem get?_insert_self : (m.insert key x).get? key = some x :=
  (lookup_insertEntry m.entries).trans (if_pos rfl)

theorem get?_insert_of_ne (h : other ≠ key) : (m.insert key x).get? other = m.get? other :=
  (lookup_insertEntry m.entries).trans (if_neg h)

/-- Only the entries of some keys are left. -/
theorem lookup_filter (p : String → Bool) (entries : List (String × α)) :
    (entries.filter fun e => p e.1).lookup key = if p key then entries.lookup key else none := by
  induction entries with
  | nil => simp
  | cons head rest ih =>
    obtain ⟨k, y⟩ := head
    rw [List.filter_cons, lookup_cons_eq]
    by_cases hk : key = k
    · subst hk
      by_cases hp : p key
      · rw [if_pos hp, lookup_cons_eq, if_pos rfl]
        simp [hp]
      · rw [if_neg hp, ih]
        simp [hp]
    · rw [if_neg hk, ← ih]
      split
      · rw [lookup_cons_eq, if_neg hk]
      · rfl

/-- The map without a key. -/
def erase (m : KeyMap α) (key : String) : KeyMap α where
  entries := m.entries.filter (·.1 ≠ key)
  sorted := m.sorted.filter _

@[simp] theorem get?_erase_self : (m.erase key).get? key = none :=
  (lookup_filter (fun other => other ≠ key) m.entries).trans (if_neg (by simp))

theorem get?_erase_of_ne (h : other ≠ key) : (m.erase key).get? other = m.get? other :=
  (lookup_filter (fun other => other ≠ key) m.entries).trans (if_pos (by simpa using h))

/-- The map with no keys but some. -/
def only (m : KeyMap α) (keys : List String) : KeyMap α where
  entries := m.entries.filter (·.1 ∈ keys)
  sorted := m.sorted.filter _

theorem get?_only {keys : List String} :
    (m.only keys).get? key = if key ∈ keys then m.get? key else none := by
  refine (lookup_filter (fun other => other ∈ keys) m.entries).trans ?_
  simp only [decide_eq_true_eq]
  rfl

private theorem mem_iff_lookup {entries : List (String × α)}
    (sorted : entries.Pairwise fun a b => Text.before a.1 b.1) :
    (key, x) ∈ entries ↔ entries.lookup key = some x := by
  induction entries with
  | nil => simp
  | cons head rest ih =>
    obtain ⟨k, y⟩ := head
    obtain ⟨above, hrest⟩ := List.pairwise_cons.1 sorted
    rw [List.mem_cons, ih hrest, lookup_cons_eq]
    by_cases hk : key = k
    · subst hk
      -- The head is the only entry of its key, because all others come after it.
      have hother : rest.lookup key ≠ some x := fun h =>
        Text.ne_of_before (above _ ((ih hrest).2 h)) rfl
      simp [hother, eq_comm]
    · simp [hk]

theorem mem_entries_iff : (key, x) ∈ m.entries ↔ m.get? key = some x := mem_iff_lookup m.sorted

theorem nodup_entries (m : KeyMap α) : m.entries.Nodup :=
  m.sorted.imp fun hb he => Text.ne_of_before hb (congrArg Prod.fst he)

theorem ext_get? (h : ∀ key, m.get? key = n.get? key) : m = n := by
  have hperm : m.entries.Perm n.entries :=
    (List.perm_ext_iff_of_nodup m.nodup_entries n.nodup_entries).2 fun e => by
      obtain ⟨key, x⟩ := e
      rw [mem_entries_iff, mem_entries_iff, h]
  refine ext (hperm.eq_of_pairwise (fun a b _ _ hab hba => ?_) m.sorted n.sorted)
  exact absurd rfl (Text.ne_of_before (Text.before_trans hab hba))

/-! ## The same keys with other values -/

variable {β : Type} {f : String → α → β} {g : α → β}

/-- The values may depend on the keys. -/
def mapEntries (f : String → α → β) (m : KeyMap α) : KeyMap β where
  entries := m.entries.map fun (key, x) => (key, f key x)
  sorted := List.pairwise_map.2 m.sorted

theorem get?_mapEntries : (m.mapEntries f).get? key = (m.get? key).map (f key) := by
  simp only [get?, mapEntries]
  induction m.entries with
  | nil => rfl
  | cons head rest ih =>
    obtain ⟨k, y⟩ := head
    rw [List.map_cons, lookup_cons_eq, lookup_cons_eq, ih]
    by_cases hk : key = k
    · subst hk
      simp
    · simp [hk]

theorem mapEntries_injective (hf : ∀ key, Function.Injective (f key)) :
    Function.Injective (mapEntries f) := by
  intro m n h
  refine ext_get? fun key => Option.map_injective (hf key) ?_
  rw [← get?_mapEntries, ← get?_mapEntries, h]

theorem isEmpty_mapEntries : (m.mapEntries f).isEmpty = m.isEmpty := List.isEmpty_map

@[simp] theorem get?_map : (m.map g).get? key = (m.get? key).map g :=
  get?_mapEntries (f := fun _ => g)

@[simp] theorem contains_map : (m.map g).contains key = m.contains key := by
  rw [contains, get?_map, Option.isSome_map, contains]

theorem map_insert : (m.insert key x).map g = (m.map g).insert key (g x) := by
  refine ext_get? fun other => ?_
  by_cases ho : other = key
  · subst ho
    simp
  · simp [get?_insert_of_ne ho]

theorem map_erase : (m.erase key).map g = (m.map g).erase key := by
  refine ext_get? fun other => ?_
  by_cases ho : other = key
  · subst ho
    simp
  · simp [get?_erase_of_ne ho]

end KeyMap

end TrustAnchor
