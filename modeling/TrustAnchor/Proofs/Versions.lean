import TrustAnchor.Proofs.Store
import Mathlib.Data.List.Pairwise

/-! The store decides between writers by versions, and soundly. Over any course of operations that
starts at an empty store, whoever asks for them, no version is given twice and the versions grow.
So the object of a name is the last one stored under it, and a replacement that carries a version
found earlier succeeds exactly if nothing has been stored under the name since. -/

namespace TrustAnchor

namespace Resource

variable {α : Type} [Resource α] {x y z : α}

/-- The version of the one is a smaller number than that of the other. -/
def Older (x y : α) : Prop :=
  ∃ v w : Nat, version x = some v.repr ∧ version y = some w.repr ∧ v < w

theorem Older.version_ne (H : Older x y) : version x ≠ version y := by
  obtain ⟨v, w, hx, hy, hlt⟩ := H
  rw [hx, hy]
  intro he
  exact hlt.ne (eq_of_repr_eq (Option.some.inj he))

end Resource

open Resource

namespace Store

/-- What anybody may ask of a store, and what may be ordered of it in advance. -/
inductive Operation (α : Type) where
  | insert (x : α)
  | get (name : String)
  | create (x : α)
  | replace (x : α)
  /-- So many of the next writes shall be refused. -/
  | refuseWrites (count : Nat)
  | failReads (code : Nat)
  | failWrites (code : Nat)

variable {α : Type} [Resource α] {s t : Store α} {x y : α} {xs : List α} {name : String}
  {op : Operation α} {ops : List (Operation α)}

/-- An operation's answer, with the object that was found or has been stored. -/
def serve (s : Store α) : Operation α → Except Error (Option α) × Store α
  | .insert x => (.ok none, s.insert x)
  | .get name => s.get name
  | .create x => ((s.create x).1.map some, (s.create x).2)
  | .replace x => ((s.replace x).1.map some, (s.replace x).2)
  | .refuseWrites count => (.ok none, { s with pendingConflicts := count })
  | .failReads code => (.ok none, { s with readFailure := some code })
  | .failWrites code => (.ok none, { s with writeFailure := some code })

/-- The object that an operation stores, if it stores one. -/
def landing (s : Store α) : Operation α → Option α
  | .insert x => some (withVersion x s.nextVersion)
  | .create x => (s.create x).1.toOption
  | .replace x => (s.replace x).1.toOption
  | _ => none

/-- What an operation leaves of the store, whatever it answers. -/
theorem serve_cases (s : Store α) (op : Operation α) :
    s.landing op = none ∧ s.Alike (s.serve op).2 ∨
      ∃ x, s.landing op = some (withVersion x s.nextVersion) ∧ s.Gains x (s.serve op).2 := by
  cases op with
  | insert x => exact .inr ⟨x, rfl, s.gains_put x⟩
  | get name => exact .inl ⟨rfl, s.alike_get name⟩
  | create x =>
    rcases s.create_cases x with ⟨⟨e, he⟩, H⟩ | ⟨hok, -, H⟩
    · exact .inl ⟨by rw [landing, he]; rfl, H⟩
    · exact .inr ⟨x, by rw [landing, hok]; rfl, H⟩
  | replace x =>
    rcases s.replace_cases x with ⟨⟨e, he⟩, H⟩ | ⟨hok, -, H⟩
    · exact .inl ⟨by rw [landing, he]; rfl, H⟩
    · exact .inr ⟨x, by rw [landing, hok]; rfl, H⟩
  | refuseWrites | failReads | failWrites => exact .inl ⟨rfl, rfl, rfl⟩

/-- The store after some operations. -/
def after (s : Store α) : List (Operation α) → Store α
  | [] => s
  | op :: ops => (s.serve op).2.after ops

/-- Everything that some operations store, the oldest first. -/
def stored (s : Store α) : List (Operation α) → List α
  | [] => []
  | op :: ops => (s.landing op).toList ++ (s.serve op).2.stored ops

/-- Everything that some operations have given out. -/
def returned (s : Store α) : List (Operation α) → List α
  | [] => []
  | op :: ops => (s.serve op).1.toOption.join.toList ++ (s.serve op).2.returned ops

/-! ## What is stored -/

/-- Of all that was ever stored, the oldest first, the store holds the last object of each name. -/
structure Records (s : Store α) (xs : List α) : Prop where
  older : xs.Pairwise Older
  given : ∀ x ∈ xs, ∃ v < s.nextVersion, version x = some v.repr
  latest : ∀ name, s.objects.get? name = xs.reverse.find? (anyName · = name)

namespace Records

theorem empty : ({} : Store α).Records [] where
  older := .nil
  given := by simp
  latest := by simp

theorem alike (H : s.Records xs) (K : s.Alike t) : t.Records xs where
  older := H.older
  given := by rw [K.nextVersion]; exact H.given
  latest := by rw [K.objects]; exact H.latest

theorem gains (H : s.Records xs) (K : s.Gains x t) :
    t.Records (xs ++ [withVersion x s.nextVersion]) where
  older := by
    refine List.pairwise_append.2 ⟨H.older, List.pairwise_singleton _ _, ?_⟩
    intro y hy z hz
    obtain ⟨v, hlt, hv⟩ := H.given y hy
    cases List.mem_singleton.1 hz
    exact ⟨v, s.nextVersion, hv, version_withVersion, hlt⟩
  given := by
    intro y hy
    rw [K.nextVersion]
    rcases List.mem_append.1 hy with hy | hy
    · obtain ⟨v, hlt, hv⟩ := H.given y hy
      exact ⟨v, hlt.trans (Nat.lt_succ_self _), hv⟩
    · cases List.mem_singleton.1 hy
      exact ⟨s.nextVersion, Nat.lt_succ_self _, version_withVersion⟩
  latest := by
    intro name
    rw [List.reverse_append, List.reverse_singleton, List.singleton_append, List.find?_cons]
    by_cases hn : anyName x = name
    · subst hn
      rw [K.get?_self]
      simp
    · rw [K.get?_of_ne (Ne.symm hn), H.latest]
      simp [hn]

theorem serve (H : s.Records xs) (op : Operation α) :
    (s.serve op).2.Records (xs ++ (s.landing op).toList) := by
  rcases s.serve_cases op with ⟨hnone, K⟩ | ⟨x, hsome, K⟩
  · rw [hnone, Option.toList_none, List.append_nil]
    exact H.alike K
  · rw [hsome, Option.toList_some]
    exact H.gains K

theorem after (H : s.Records xs) (ops : List (Operation α)) :
    (s.after ops).Records (xs ++ s.stored ops) := by
  induction ops generalizing s xs with
  | nil => simpa [stored, Store.after] using H
  | cons op ops ih =>
    rw [stored, ← List.append_assoc]
    exact ih (H.serve op)

/-- What stands under a name has been stored, and under that name. -/
theorem mem (H : s.Records xs) (h : s.objects.get? name = some x) : x ∈ xs ∧ anyName x = name := by
  rw [H.latest] at h
  exact ⟨List.mem_reverse.1 (List.mem_of_find?_eq_some h), by simpa using List.find?_some h⟩

theorem sound (H : s.Records xs) : s.Sound where
  name h := (H.mem h).2
  version h := H.given _ (H.mem h).1

theorem version_ne (H : s.Records xs) : xs.Pairwise fun x y => version x ≠ version y :=
  H.older.imp Older.version_ne

/-- Two stored objects of one version are the same. -/
theorem eq_of_version (H : s.Records xs) (hx : x ∈ xs) (hy : y ∈ xs)
    (h : version x = version y) : x = y := by
  have : Std.Symm fun x y : α => version x ≠ version y := ⟨fun _ _ h => h.symm⟩
  by_contra hne
  exact H.version_ne.forall hx hy hne h

/-- The object of a name is a certain stored one exactly if none of the name came after it. -/
theorem current_iff {earlier later : List α} (H : s.Records (earlier ++ y :: later)) :
    s.objects.get? (anyName y) = some y ↔ ∀ z ∈ later, anyName z ≠ anyName y := by
  rw [H.latest, List.reverse_append, List.reverse_cons, List.append_assoc, List.find?_append]
  constructor
  · intro h z hz hname
    -- One of the later objects is found before `y`, and it has another version.
    cases hlater : later.reverse.find? (anyName · = anyName y) with
    | none =>
      have := List.find?_eq_none.1 hlater z (List.mem_reverse.2 hz)
      simp [hname] at this
    | some w =>
      rw [hlater] at h
      cases h
      have hw := List.mem_reverse.1 (List.mem_of_find?_eq_some hlater)
      have holder := (List.pairwise_append.1 H.version_ne).2.1
      exact (List.pairwise_cons.1 holder).1 _ hw rfl
  · intro h
    have hlater : later.reverse.find? (anyName · = anyName y) = none := by
      rw [List.find?_eq_none]
      intro z hz
      simpa using h z (List.mem_reverse.1 hz)
    simp [hlater]

/-- Nothing else is given out than what is or has been stored. -/
theorem returned (H : s.Records xs) (ops : List (Operation α)) (h : y ∈ s.returned ops) :
    y ∈ xs ++ s.stored ops := by
  induction ops generalizing s xs with
  | nil => simp [Store.returned] at h
  | cons op ops ih =>
    rw [stored, ← List.append_assoc]
    rw [Store.returned] at h
    rcases List.mem_append.1 h with h | h
    · refine List.mem_append_left _ ?_
      cases op with
      | get name =>
        refine List.mem_append_left _ ?_
        rcases s.get_answer name with hanswer | ⟨e, hanswer⟩
        · rw [Store.serve, hanswer] at h
          exact (H.mem (Option.mem_toList.1 h)).1
        · rw [Store.serve, hanswer] at h
          simp [Except.toOption] at h
      | create x =>
        refine List.mem_append_right _ ?_
        rw [Store.serve] at h
        rw [landing]
        cases hanswer : (s.create x).1 <;> simp_all [Except.map, Except.toOption]
      | replace x =>
        refine List.mem_append_right _ ?_
        rw [Store.serve] at h
        rw [landing]
        cases hanswer : (s.replace x).1 <;> simp_all [Except.map, Except.toOption]
      | insert | refuseWrites | failReads | failWrites =>
        simp [Store.serve, Except.toOption] at h
    · exact ih (H.serve op) h

end Records

/-! ## Which writes go on -/

/-- No failure and no conflict has been ordered for the next write. -/
def Open (s : Store α) : Prop := s.writeFailure = none ∧ s.pendingConflicts = 0

/-- What a call leaves that fails: a read is counted, a write uses up one conflict at most. -/
def Spared (s : Store α) : Operation α → Store α → Prop
  | .get _, t => t = { s with gets := s.gets + 1 }
  | _, t => t = s ∨ ∃ n, s.pendingConflicts = n + 1 ∧ t = { s with pendingConflicts := n }

omit [Resource α] in
theorem admitWrite_cases (s : Store α) :
    (s.Open ∧ s.admitWrite = (.ok (), s)) ∨
      ¬s.Open ∧ (∃ e, s.admitWrite.1 = .error e) ∧ (s.admitWrite.2 = s ∨
        ∃ n, s.pendingConflicts = n + 1 ∧ s.admitWrite.2 = { s with pendingConflicts := n }) := by
  rw [Open, admitWrite]
  cases hfailure : s.writeFailure with
  | some code => exact .inr ⟨by simp, ⟨_, rfl⟩, .inl rfl⟩
  | none =>
    cases hconflicts : s.pendingConflicts with
    | zero => exact .inl ⟨⟨rfl, rfl⟩, rfl⟩
    | succ n => exact .inr ⟨by simp, ⟨_, rfl⟩, .inr ⟨n, rfl, rfl⟩⟩

theorem create_refused {e : Error} (h : s.admitWrite.1 = .error e) :
    s.create x = (.error e, s.admitWrite.2) := by
  rw [create, show s.admitWrite = (.error e, s.admitWrite.2) from Prod.ext h rfl]

theorem replace_refused {e : Error} (h : s.admitWrite.1 = .error e) :
    s.replace x = (.error e, s.admitWrite.2) := by
  rw [replace, show s.admitWrite = (.error e, s.admitWrite.2) from Prod.ext h rfl]

theorem create_ok_iff :
    (∃ y, (s.create x).1 = .ok y) ↔ s.Open ∧ s.objects.get? (anyName x) = none := by
  rcases s.admitWrite_cases with ⟨hopen, hadmitted⟩ | ⟨hopen, ⟨e, he⟩, -⟩
  · rw [create, hadmitted]
    cases hobject : s.objects.get? (anyName x) with
    | none => simp [KeyMap.contains, hobject, hopen]
    | some current => simp [KeyMap.contains, hobject]
  · simp [create_refused he, hopen]

theorem replace_ok_iff : (∃ y, (s.replace x).1 = .ok y) ↔
    s.Open ∧ ∃ current, s.objects.get? (anyName x) = some current ∧ version x = version current := by
  rcases s.admitWrite_cases with ⟨hopen, hadmitted⟩ | ⟨hopen, ⟨e, he⟩, -⟩
  · rw [replace, hadmitted]
    cases hcurrent : s.objects.get? (anyName x) with
    | none => simp [hcurrent]
    | some current =>
      by_cases h : version x = version current
      · simp [hcurrent, h, hopen]
      · simp [hcurrent, h]
  · simp [replace_refused he, hopen]

/-- A version found earlier can be replaced exactly while it is the current one. -/
theorem Records.replace_ok_iff {earlier later : List α} (H : s.Records (earlier ++ y :: later))
    (hname : anyName x = anyName y) (hversion : version x = version y) :
    (∃ z, (s.replace x).1 = .ok z) ↔ s.Open ∧ s.objects.get? (anyName y) = some y := by
  rw [Store.replace_ok_iff, hname, hversion]
  refine and_congr_right fun _ => ⟨?_, fun hy => ⟨y, hy, rfl⟩⟩
  rintro ⟨current, hcurrent, heq⟩
  have hy : y ∈ earlier ++ y :: later := List.mem_append_right _ List.mem_cons_self
  cases H.eq_of_version hy (H.mem hcurrent).1 heq
  exact hcurrent

theorem spared_of_error {e : Error} (h : (s.serve op).1 = .error e) :
    s.Spared op (s.serve op).2 := by
  cases op with
  | insert | refuseWrites | failReads | failWrites => simp [serve] at h
  | get name =>
    change (s.get name).2 = _
    rw [get]
    dsimp only
    split <;> rfl
  | create x =>
    change (s.create x).2 = s ∨ ∃ n, _ ∧ (s.create x).2 = _
    rcases s.admitWrite_cases with ⟨hopen, hadmitted⟩ | ⟨-, ⟨e, he⟩, hleft⟩
    · refine .inl ?_
      rw [serve, create, hadmitted] at h
      rw [create, hadmitted]
      cases hobject : s.objects.get? (anyName x) with
      | none => simp [KeyMap.contains, hobject, Except.map] at h
      | some current => simp [KeyMap.contains, hobject]
    · rwa [create_refused he]
  | replace x =>
    change (s.replace x).2 = s ∨ ∃ n, _ ∧ (s.replace x).2 = _
    rcases s.admitWrite_cases with ⟨hopen, hadmitted⟩ | ⟨-, ⟨e, he⟩, hleft⟩
    · refine .inl ?_
      rw [serve, replace, hadmitted] at h
      rw [replace, hadmitted]
      cases hobject : s.objects.get? (anyName x) with
      | none => simp [hobject]
      | some current =>
        by_cases hversion : version x = version current
        · simp [hobject, hversion, Except.map] at h
        · simp [hobject, hversion]
    · rwa [replace_refused he]

/-! ## How far the counts go -/

theorem nextVersion_after (s : Store α) (ops : List (Operation α)) :
    (s.after ops).nextVersion = s.nextVersion + (s.stored ops).length := by
  induction ops generalizing s with
  | nil => rfl
  | cons op ops ih =>
    rw [after, stored, ih, List.length_append]
    rcases s.serve_cases op with ⟨hnone, K⟩ | ⟨x, hsome, K⟩
    · rw [hnone, K.nextVersion]
      simp
    · rw [hsome, K.nextVersion]
      simp [Nat.add_assoc]

theorem length_stored_le (s : Store α) (ops : List (Operation α)) :
    (s.stored ops).length ≤ ops.length := by
  induction ops generalizing s with
  | nil => exact Nat.le_refl _
  | cons op ops ih =>
    have hfirst : (s.landing op).toList.length ≤ 1 := by cases s.landing op <;> simp
    rw [stored, List.length_append, List.length_cons]
    have := ih (s.serve op).2
    omega

theorem create_of_ok (h : (s.create x).1 = .ok y) : (s.create x).2 = (s.write x).2 := by
  obtain ⟨hopen, hobject⟩ := create_ok_iff.1 ⟨y, h⟩
  rcases s.admitWrite_cases with ⟨-, hadmitted⟩ | ⟨hclosed, -⟩
  · rw [create, hadmitted]
    simp [KeyMap.contains, hobject]
  · exact absurd hopen hclosed

theorem replace_of_ok (h : (s.replace x).1 = .ok y) : (s.replace x).2 = (s.write x).2 := by
  obtain ⟨hopen, current, hobject, hversion⟩ := replace_ok_iff.1 ⟨y, h⟩
  rcases s.admitWrite_cases with ⟨-, hadmitted⟩ | ⟨hclosed, -⟩
  · rw [replace, hadmitted]
    simp [hobject, hversion]
  · exact absurd hopen hclosed

theorem counts_serve (s : Store α) (op : Operation α) :
    (s.serve op).2.gets ≤ s.gets + 1 ∧ (s.serve op).2.writes ≤ s.writes + 1 := by
  cases op with
  | insert | refuseWrites | failReads | failWrites => simp [serve, insert, put]
  | get name =>
    rw [serve, get]
    dsimp only
    split <;> simp
  | create x =>
    cases hanswer : (s.create x).1 with
    | error e =>
      have hspared : s.Spared (.create x) (s.create x).2 :=
        spared_of_error (e := e) (by rw [serve, hanswer]; rfl)
      rcases hspared with hspared | ⟨n, -, hspared⟩ <;> simp [serve, hspared]
    | ok y => simp [serve, create_of_ok hanswer, write, put]
  | replace x =>
    cases hanswer : (s.replace x).1 with
    | error e =>
      have hspared : s.Spared (.replace x) (s.replace x).2 :=
        spared_of_error (e := e) (by rw [serve, hanswer]; rfl)
      rcases hspared with hspared | ⟨n, -, hspared⟩ <;> simp [serve, hspared]
    | ok y => simp [serve, replace_of_ok hanswer, write, put]

theorem counts_after (s : Store α) (ops : List (Operation α)) :
    (s.after ops).gets ≤ s.gets + ops.length ∧ (s.after ops).writes ≤ s.writes + ops.length := by
  induction ops generalizing s with
  | nil => exact ⟨Nat.le_refl _, Nat.le_refl _⟩
  | cons op ops ih =>
    have hfirst := s.counts_serve op
    have hrest := ih (s.serve op).2
    rw [after, List.length_cons]
    omega

/-! ## A sound compare-and-swap -/

/-- What holds of the store after some operations on the empty one. -/
structure Decides (ops : List (Operation α)) : Prop where
  /-- Each object stands under its own name, at a number below the next one. -/
  sound : (after {} ops).Sound
  /-- No version is given twice, not even under two names. -/
  distinct : (stored {} ops).Pairwise fun x y : α => version x ≠ version y
  older : (stored {} ops).Pairwise (Older (α := α))
  /-- What has been given out has been stored. -/
  returned : ∀ y ∈ returned {} ops, y ∈ stored {} ops
  /-- A replacement of a version stored earlier goes on unless it is refused in advance or an object
  of the name has been stored since, and it is that version that it replaces. -/
  replace : ∀ {earlier later : List α} {x y : α}, stored {} ops = earlier ++ y :: later →
    anyName x = anyName y → version x = version y →
      ((∃ z, ((after {} ops).replace x).1 = .ok z) ↔
        (after {} ops).Open ∧ ∀ z ∈ later, anyName z ≠ anyName y) ∧
      ((∃ z, ((after {} ops).replace x).1 = .ok z) →
        (after {} ops).objects.get? (anyName x) = some y)
  /-- A creation goes on unless it is refused in advance or there is an object of the name. -/
  create : ∀ x : α, (∃ z, ((after {} ops).create x).1 = .ok z) ↔
    (after {} ops).Open ∧ (after {} ops).objects.get? (anyName x) = none
  /-- A call that fails changes no object, no version and not the number of writes. -/
  error : ∀ {op : Operation α} {e : Error}, ((after {} ops).serve op).1 = .error e →
    (after {} ops).Spared op ((after {} ops).serve op).2
  /-- No number outgrows the number of operations. -/
  counts : (after {} ops).nextVersion ≤ ops.length + 1 ∧ (after {} ops).gets ≤ ops.length ∧
    (after {} ops).writes ≤ ops.length

theorem records_after (ops : List (Operation α)) :
    (after {} ops).Records (stored {} ops) := by
  simpa using Records.empty.after ops

theorem decides_by_version (ops : List (Operation α)) : Decides ops where
  sound := (records_after ops).sound
  distinct := (records_after ops).version_ne
  older := (records_after ops).older
  returned := by
    intro y hy
    simpa using Records.empty.returned ops hy
  replace := by
    intro earlier later x y hstored hname hversion
    have H := hstored ▸ records_after ops
    have hiff := H.replace_ok_iff hname hversion
    refine ⟨?_, fun hok => ?_⟩
    · rw [hiff, H.current_iff]
    · rw [hname]
      exact (hiff.1 hok).2
  create _ := create_ok_iff
  error := spared_of_error
  counts := by
    have hnext := nextVersion_after ({} : Store α) ops
    have hstored := length_stored_le ({} : Store α) ops
    have hcounts := counts_after ({} : Store α) ops
    dsimp only at hnext hcounts
    omega

/-- Of two who replace the version that both have read, the second is refused. -/
example : let read : Secret := withVersion (named "tls" none) 1
    let s := after {} [.insert (named "tls" none), .get "tls", .get "tls", .replace read]
    (s.replace read).1 = .error (.api 409 "Conflict") := by
  rfl

end Store

end TrustAnchor
