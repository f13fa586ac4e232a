import TrustAnchor.Text.Order

/-! Finite maps from texts, kept as lists in the order of their keys. The order is part of the type,
so two maps with the same entries are equal. -/

namespace TrustAnchor

structure KeyMap (α : Type) where
  entries : List (String × α)
  sorted : entries.Pairwise fun a b => Text.before a.1 b.1

namespace KeyMap

variable {α β : Type}

theorem ext {m n : KeyMap α} (h : m.entries = n.entries) : m = n := by
  cases m; cases n; cases h; rfl

instance [DecidableEq α] : DecidableEq (KeyMap α) := fun m n =>
  if h : m.entries = n.entries then isTrue (ext h) else isFalse fun e => h (e ▸ rfl)

def empty : KeyMap α := ⟨[], .nil⟩

instance : Inhabited (KeyMap α) := ⟨empty⟩

def isEmpty (m : KeyMap α) : Bool := m.entries.isEmpty

def get? (m : KeyMap α) (key : String) : Option α := m.entries.lookup key

def contains (m : KeyMap α) (key : String) : Bool := (m.get? key).isSome

def values (m : KeyMap α) : List α := m.entries.map (·.2)

/-- Puts an entry in front of the first greater key, in place of an equal one. -/
def insertEntry (key : String) (x : α) : List (String × α) → List (String × α)
  | [] => [(key, x)]
  | (k, y) :: rest =>
    if Text.before key k then (key, x) :: (k, y) :: rest
    else if key = k then (key, x) :: rest
    else (k, y) :: insertEntry key x rest

theorem fst_of_mem_insertEntry {key : String} {x : α} {entries : List (String × α)}
    {e : String × α} (h : e ∈ insertEntry key x entries) : e.1 = key ∨ e ∈ entries := by
  induction entries with
  | nil => simp_all [insertEntry]
  | cons head rest ih =>
    simp only [insertEntry] at h
    split at h
    · rcases List.mem_cons.1 h with rfl | h
      · exact .inl rfl
      · exact .inr h
    · split at h
      · rcases List.mem_cons.1 h with rfl | h
        · exact .inl rfl
        · exact .inr (List.mem_cons_of_mem _ h)
      · rcases List.mem_cons.1 h with rfl | h
        · exact .inr List.mem_cons_self
        · exact (ih h).imp_right (List.mem_cons_of_mem _)

theorem pairwise_insertEntry (key : String) (x : α) {entries : List (String × α)}
    (h : entries.Pairwise fun a b => Text.before a.1 b.1) :
    (insertEntry key x entries).Pairwise fun a b => Text.before a.1 b.1 := by
  induction entries with
  | nil => simp [insertEntry]
  | cons head rest ih =>
    obtain ⟨above, hrest⟩ := List.pairwise_cons.1 h
    simp only [insertEntry]
    split
    · rename_i below
      refine List.pairwise_cons.2 ⟨fun e he => ?_, h⟩
      rcases List.mem_cons.1 he with rfl | he
      · exact below
      · exact Text.before_trans below (above e he)
    · rename_i notBelow
      split
      · rename_i same
        exact List.pairwise_cons.2 ⟨fun e he => same ▸ above e he, hrest⟩
      · rename_i different
        refine List.pairwise_cons.2 ⟨fun e he => ?_, ih hrest⟩
        rcases fst_of_mem_insertEntry he with same | he
        · exact same ▸ (Text.before_total different).resolve_left notBelow
        · exact above e he

/-- The map with an entry added, in place of one with the same key. -/
def insert (m : KeyMap α) (key : String) (x : α) : KeyMap α :=
  ⟨insertEntry key x m.entries, pairwise_insertEntry key x m.sorted⟩

/-- The map of some entries; of two with one key the later counts. -/
def ofList (entries : List (String × α)) : KeyMap α :=
  entries.foldl (fun m (key, x) => m.insert key x) empty

/-- The same keys with other values. -/
def map (f : α → β) (m : KeyMap α) : KeyMap β where
  entries := m.entries.map fun (key, x) => (key, f x)
  sorted := List.pairwise_map.2 m.sorted

end KeyMap

end TrustAnchor
