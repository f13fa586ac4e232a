import TrustAnchor.Proofs.Loop
import TrustAnchor.Proofs.Surroundings

/-! A world in which nothing fails but writes that meet a pending conflict. -/

namespace TrustAnchor

namespace Store

variable {α : Type} {s : Store α}

/-- No failure has been ordered, so only conflicts are in the way. -/
structure Willing (s : Store α) : Prop where
  reads : s.readFailure = none
  writes : s.writeFailure = none

theorem Willing.get (H : s.Willing) {name : String} : (s.get name).1 = .ok (s.objects.get? name) :=
  get_of_reads H.reads

/-- Whether a write goes on is a matter of the pending conflicts, of which it uses up one. -/
theorem Willing.admitWrite_cases (H : s.Willing) : s.admitWrite.2.Willing ∧
    s.admitWrite.2.pendingConflicts ≤ s.pendingConflicts ∧
      (s.admitWrite.1 = .ok () ∨ s.admitWrite.1 = .error (.api 409 "Conflict") ∧
        s.admitWrite.2.pendingConflicts < s.pendingConflicts) := by
  rw [admitWrite, H.writes]
  cases hpending : s.pendingConflicts with
  | zero => exact ⟨H, hpending.le, .inl rfl⟩
  | succ n => exact ⟨⟨H.reads, rfl⟩, Nat.le_succ n, .inr ⟨rfl, Nat.lt_succ_self n⟩⟩

variable [Resource α]

theorem willing_write {x : α} (H : s.Willing) : (s.write x).2.Willing := ⟨H.reads, H.writes⟩

/-- A new object of a name that is not taken meets at most a conflict. -/
theorem Willing.create_cases (H : s.Willing) {x : α}
    (hx : s.objects.get? (Resource.anyName x) = none) :
    (∃ y, (s.create x).1 = .ok y) ∨ (s.create x).1 = .error (.api 409 "Conflict") ∧
      (s.create x).2.objects = s.objects ∧
        (s.create x).2.pendingConflicts < s.pendingConflicts := by
  obtain ⟨-, -, hcases⟩ := H.admitWrite_cases
  have halike := s.alike_admitWrite
  unfold create
  cases hgranted : s.admitWrite with
  | mk answer t =>
    rw [hgranted] at hcases halike
    rcases hcases with rfl | ⟨rfl, hlt⟩
    · have habsent : ¬ t.objects.contains (Resource.anyName x) = true := by
        rw [halike.objects]
        simpa [KeyMap.contains] using hx
      dsimp only
      rw [if_neg habsent]
      exact .inl ⟨_, rfl⟩
    · exact .inr ⟨rfl, halike.objects, hlt⟩

/-- A replacement of the object that is there meets at most a conflict. -/
theorem Willing.replace_cases (H : s.Willing) {x current : α}
    (hcurrent : s.objects.get? (Resource.anyName x) = some current)
    (hversion : Resource.version x = Resource.version current) :
    (∃ y, (s.replace x).1 = .ok y) ∨ (s.replace x).1 = .error (.api 409 "Conflict") ∧
      (s.replace x).2.objects = s.objects ∧
        (s.replace x).2.pendingConflicts < s.pendingConflicts := by
  obtain ⟨-, -, hcases⟩ := H.admitWrite_cases
  have halike := s.alike_admitWrite
  unfold replace
  cases hgranted : s.admitWrite with
  | mk answer t =>
    rw [hgranted] at hcases halike
    rcases hcases with rfl | ⟨rfl, hlt⟩
    · dsimp only
      rw [halike.objects, hcurrent]
      dsimp only
      rw [if_neg (not_not.2 hversion)]
      exact .inl ⟨_, rfl⟩
    · exact .inr ⟨rfl, halike.objects, hlt⟩

/-- No call orders a failure or a conflict. -/
theorem Willing.perform (H : s.Willing) (c : Call α) : (Site.perform s c).2.Willing ∧
    (Site.perform s c).2.pendingConflicts ≤ s.pendingConflicts := by
  obtain ⟨hwilling, hle, -⟩ := H.admitWrite_cases
  cases c with
  | get name =>
    unfold Site.perform Store.get
    dsimp only
    split
    · exact ⟨⟨H.reads, H.writes⟩, Nat.le_refl _⟩
    · exact ⟨⟨H.reads, H.writes⟩, Nat.le_refl _⟩
  | create x =>
    unfold Site.perform create
    cases hgranted : s.admitWrite with
    | mk answer t =>
      rw [hgranted] at hwilling hle
      cases answer with
      | error e => exact ⟨hwilling, hle⟩
      | ok =>
        dsimp only
        split
        · exact ⟨hwilling, hle⟩
        · exact ⟨willing_write hwilling, hle⟩
  | replace x =>
    unfold Site.perform replace
    cases hgranted : s.admitWrite with
    | mk answer t =>
      rw [hgranted] at hwilling hle
      cases answer with
      | error e => exact ⟨hwilling, hle⟩
      | ok =>
        dsimp only
        split
        · exact ⟨hwilling, hle⟩
        · split
          · exact ⟨hwilling, hle⟩
          · exact ⟨willing_write hwilling, hle⟩

end Store

/-- Nothing is on the way, neither a failure nor another writer. -/
structure Weather.Clear {α : Type} (w : Weather α) : Prop where
  reads : ∀ d ∈ w.reads, d = .calm
  writes : ∀ d ∈ w.writes, d = .calm
  otherReads : w.otherReads = .calm
  otherWrites : w.otherWrites = .calm

namespace Weather.Clear

variable {α : Type} {w : Weather α}

theorem none : ({} : Weather α).Clear where
  reads _ h := (List.not_mem_nil h).elim
  writes _ h := (List.not_mem_nil h).elim
  otherReads := rfl
  otherWrites := rfl

theorem forRead (H : w.Clear) : w.forRead.1 = .calm ∧ w.forRead.2.Clear := by
  rw [Weather.forRead]
  split
  · exact ⟨H.otherReads, H⟩
  · rename_i d rest hreads
    have hclear := H.reads
    rw [hreads, List.forall_mem_cons] at hclear
    exact ⟨hclear.1, hclear.2, H.writes, H.otherReads, H.otherWrites⟩

theorem forWrite (H : w.Clear) : w.forWrite.1 = .calm ∧ w.forWrite.2.Clear := by
  rw [Weather.forWrite]
  split
  · exact ⟨H.otherWrites, H⟩
  · rename_i d rest hwrites
    have hclear := H.writes
    rw [hwrites, List.forall_mem_cons] at hclear
    exact ⟨hclear.1, H.reads, hclear.2, H.otherReads, H.otherWrites⟩

theorem calm (H : w.Clear) : w.Calm where
  reads d hd := H.reads d hd ▸ rfl
  writes d hd := H.writes d hd ▸ rfl
  otherReads := H.otherReads ▸ rfl
  otherWrites := H.otherWrites ▸ rfl

end Weather.Clear

/-- In clear weather a call is what the store makes of it. -/
theorem Site.call_of_clear {α : Type} [Resource α] {s : Site α} (H : s.weather.Clear)
    (c : Call α) : (s.call c).1 = .ok (perform s.store c).1 ∧
      (s.call c).2.store = (perform s.store c).2 ∧ (s.call c).2.weather.Clear := by
  have hclear : (s.disturbance c).1 = .calm ∧ (s.disturbance c).2.Clear := by
    rw [disturbance]
    split
    · exact H.forWrite
    · exact H.forRead
  rw [call]
  generalize s.disturbance c = before at hclear ⊢
  obtain ⟨d, weather⟩ := before
  obtain ⟨rfl, hclear⟩ := hclear
  exact ⟨rfl, rfl, hclear⟩

/-- What is drawn has been written down in advance, or is a half. -/
theorem Environment.chance_cases (e : Environment) :
    e.chance ∈ e.chances ∨ e.chance = .ofRatio false 1 2 := by
  rw [chance, List.getD_eq_getElem?_getD]
  cases hi : e.chances[e.drawn % e.chances.length]? with
  | none => exact .inr rfl
  | some u => exact .inl (List.mem_of_getElem? hi)

namespace World

def object (w : World Cluster) (k : Kind) (name : String) : Option k.Object :=
  (w.objects.stores k).objects.get? name

/-- How many writes of a kind of objects will still be refused. -/
def pending (w : World Cluster) (k : Kind) : Nat := (w.objects.stores k).pendingConflicts

/-- The answer to a request. -/
def answer (w : World Cluster) (r : Request) : Except String r.Answer :=
  (handler Cluster.backend r w).1

/-- The world after a request. -/
def after (w : World Cluster) (r : Request) : World Cluster := (handler Cluster.backend r w).2

/-- The random numbers that may be drawn. -/
def Offers (w : World Cluster) (u : Binary64) : Prop :=
  u ∈ w.env.chances ∨ u = .ofRatio false 1 2

/-- Nothing can fail but a write that meets a pending conflict, and all random numbers that may be
drawn are as `U` says. -/
structure Clear (U : Binary64 → Prop) (w : World Cluster) : Prop where
  sound : ∀ k, (w.objects.stores k).Sound
  weather : ∀ k, (w.objects.site k).weather.Clear
  willing : ∀ k, (w.objects.stores k).Willing
  offers : ∀ u, w.Offers u → U u

variable {U : Binary64 → Prop} {w : World Cluster} {k k' : Kind} {name : String} {r : Request}

section Call

variable (H : (w.objects.site k).weather.Clear) (c : Call k.Object)
include H

/-- In clear weather a store itself answers. -/
theorem answer_of_clear : w.answer (.store k c) = .ok (Site.perform (w.objects.stores k) c).1 :=
  (Site.call_of_clear H c).1

theorem stores_of_clear : (w.after (.store k c)).objects.stores =
    Function.update w.objects.stores k (Site.perform (w.objects.stores k) c).2 := by
  have hobjects : (w.after (.store k c)).objects =
      w.objects.withSite k ((w.objects.site k).call c).2 := rfl
  rw [hobjects, Cluster.stores_withSite, (Site.call_of_clear H c).2.1]
  rfl

end Call

/-- No request brings weather up. -/
theorem weather_after (H : (w.objects.site k).weather.Clear) (r : Request) :
    ((w.after r).objects.site k).weather.Clear := by
  cases r with
  | store k' c =>
    simp only [World.after, World.handler, Cluster.backend]
    by_cases hk : k = k'
    · subst hk
      rw [Cluster.site_withSite_self]
      exact (Site.call_of_clear H c).2.2
    · rw [Cluster.site_withSite_of_ne _ _ hk]
      exact H
  | now | generate | chance | report | sleep => exact H

namespace Clear

theorem calm (H : w.Clear U) : w.Calm := fun k => (H.weather k).calm

theorem chance (H : w.Clear U) : U w.env.chance := H.offers _ w.env.chance_cases

theorem answer_store (H : w.Clear U) (c : Call k.Object) :
    w.answer (.store k c) = .ok (Site.perform (w.objects.stores k) c).1 :=
  answer_of_clear (H.weather k) c

theorem stores_after (H : w.Clear U) (c : Call k.Object) :
    (w.after (.store k c)).objects.stores =
      Function.update w.objects.stores k (Site.perform (w.objects.stores k) c).2 :=
  stores_of_clear (H.weather k) c

/-- No request brings failures about. -/
theorem after (H : w.Clear U) (r : Request) : (w.after r).Clear U := by
  cases r with
  | store k c =>
    have hstores := H.stores_after c
    refine ⟨fun k' => ?_, fun k' => weather_after (H.weather k') _, fun k' => ?_, H.offers⟩
    · rw [hstores]
      by_cases hk : k' = k
      · subst hk
        rw [Function.update_self]
        exact ((w.objects.stores k').drift_perform c).sound (H.sound k')
      · rw [Function.update_of_ne hk]
        exact H.sound k'
    · rw [hstores]
      by_cases hk : k' = k
      · subst hk
        rw [Function.update_self]
        exact ((H.willing k').perform c).1
      · rw [Function.update_of_ne hk]
        exact H.willing k'
  | now | generate | chance | report | sleep => exact ⟨H.sound, H.weather, H.willing, H.offers⟩

/-- Conflicts only grow fewer. -/
theorem pending_after (H : w.Clear U) (r : Request) : (w.after r).pending k ≤ w.pending k := by
  cases r with
  | store k' c =>
    rw [pending, H.stores_after c]
    by_cases hk : k = k'
    · subst hk
      rw [Function.update_self]
      exact ((H.willing k).perform c).2
    · rw [Function.update_of_ne hk]
      exact Nat.le_refl _
  | now | generate | chance | report | sleep => exact Nat.le_refl _

/-- A request does nothing to the objects that it is not about. -/
theorem object_after (H : w.Clear U) (h : ¬ r.On k name) :
    (w.after r).object k name = w.object k name := by
  cases r with
  | store k' c =>
    rw [object, H.stores_after c]
    by_cases hk : k = k'
    · subst hk
      rw [Function.update_self]
      exact Store.get?_perform_of_ne fun hname => h ⟨rfl, hname.symm⟩
    · rw [Function.update_of_ne hk, object]
  | now | generate | chance | report | sleep => rfl

/-- What is read is what is there. -/
theorem read (H : w.Clear U) (k : Kind) (name : String) :
    w.answer (.store k (.get name)) = .ok (.ok (w.object k name)) ∧
      (w.after (.store k (.get name))).object k name = w.object k name := by
  refine ⟨(H.answer_store _).trans (congrArg Except.ok (H.willing k).get), ?_⟩
  rw [object, H.stores_after, Function.update_self]
  exact congrArg (KeyMap.get? · name) ((w.objects.stores k).alike_get name).objects

/-- An object that is not there is created, unless a conflict is pending. -/
theorem create {x : k.Object} (H : w.Clear U) (h : w.object k (Resource.anyName x) = none) :
    (∃ y, w.answer (.store k (.create x)) = .ok (.ok y)) ∨
      w.answer (.store k (.create x)) = .ok (.error (.api 409 "Conflict")) ∧
        (w.after (.store k (.create x))).object k = w.object k ∧
          (w.after (.store k (.create x))).pending k < w.pending k := by
  rw [H.answer_store, pending]
  unfold object
  rw [H.stores_after, Function.update_self]
  rcases (H.willing k).create_cases h with ⟨y, hy⟩ | ⟨hconflict, hobjects, hpending⟩
  · exact .inl ⟨y, congrArg Except.ok hy⟩
  · exact .inr ⟨congrArg Except.ok hconflict, congrArg KeyMap.get? hobjects, hpending⟩

/-- An object that is there is replaced, unless a conflict is pending. -/
theorem replace {x current : k.Object} (H : w.Clear U)
    (h : w.object k (Resource.anyName x) = some current)
    (hversion : Resource.version x = Resource.version current) :
    (∃ y, w.answer (.store k (.replace x)) = .ok (.ok y)) ∨
      w.answer (.store k (.replace x)) = .ok (.error (.api 409 "Conflict")) ∧
        (w.after (.store k (.replace x))).object k = w.object k ∧
          (w.after (.store k (.replace x))).pending k < w.pending k := by
  rw [H.answer_store, pending]
  unfold object
  rw [H.stores_after, Function.update_self]
  rcases (H.willing k).replace_cases h hversion with ⟨y, hy⟩ | ⟨hconflict, hobjects, hpending⟩
  · exact .inl ⟨y, congrArg Except.ok hy⟩
  · exact .inr ⟨congrArg Except.ok hconflict, congrArg KeyMap.get? hobjects, hpending⟩

end Clear

end World

theorem Sample.clear {w : World Cluster} {clock : Instant} {made : List Authority} {ca : Secret}
    (h : w = world clock made ca {}) : w.Clear (· = .ofRatio false 1 2) := by
  subst h
  refine ⟨sound rfl, fun k => ?_, fun k => ?_, fun u hu => hu.resolve_left List.not_mem_nil⟩
  · match k with
    | .secret | .webhook .mutating | .webhook .validating => exact .none
  · match k with
    | .secret | .webhook .mutating | .webhook .validating => exact ⟨rfl, rfl⟩

end TrustAnchor
