import TrustAnchor.Proofs.History

/-! What the past records of a script's own requests: what was written, and when a new authority was
asked for. Deeds of others leave no trace in these records. -/

namespace TrustAnchor

namespace Request

/-- What was written, if the request is a write that went well. -/
def landed : (r : Request) → Except String r.Answer → List (Kind × String)
  | .store k c, answer => if (Request.store k c).Wrote answer then [(k, c.name)] else []
  | .now, _ | .generate _, _ | .chance, _ | .report _, _ | .sleep _, _ => []

/-- If the request is a call on the objects of a kind, it is a read. -/
def Spares (k : Kind) : Request → Prop
  | .store k' c => k' = k → c.isWrite = false
  | _ => True

/-- If the request reads an object, it is told what there is. -/
def Heard : (r : Request) → Except String r.Answer → Prop
  | .store _ (.get _), .ok (.ok _) => True
  | .store _ (.get _), _ => False
  | _, _ => True

/-- The authority that was made, if the request has asked for one. -/
def made : (r : Request) → Except String r.Answer → List Authority
  | .generate _, .ok (.ok a) => [a]
  | _, _ => []

/-- The request asks for a new authority. -/
def Generates : Request → Prop
  | .generate _ => True
  | _ => False

variable {k : Kind} {name : String} {r : Request} {answer : Except String r.Answer}

theorem landed_of_wrote (hon : r.On k name) (h : r.Wrote answer) :
    r.landed answer = [(k, name)] := by
  cases r with
  | store k' c =>
    obtain ⟨rfl, rfl⟩ := hon
    rw [landed, if_pos h]
  | _ => exact hon.elim

/-- Only what a request is about can be written by it. -/
theorem on_of_mem_landed (h : (k, name) ∈ r.landed answer) : r.On k name := by
  cases r with
  | store k' c =>
    rw [landed] at h
    split at h
    · cases List.mem_singleton.1 h
      exact ⟨rfl, rfl⟩
    · exact absurd h List.not_mem_nil
  | _ => exact absurd h List.not_mem_nil

theorem landed_of_not_wrote (h : ¬ r.Wrote answer) : r.landed answer = [] := by
  cases r with
  | store k c => rw [landed, if_neg h]
  | _ => rfl

theorem ReadsOnly.spares (h : r.ReadsOnly) : r.Spares k := by
  cases r with
  | store k' c => exact fun _ => h
  | _ => trivial

end Request

namespace History

variable {past : History}

/-- All that was written, the last first. -/
def written : History → List (Kind × String)
  | [] => []
  | .deed _ _ :: past => written past
  | .request _ r answer :: past => r.landed answer ++ written past

/-- The times for which a new authority was asked for, the last first. -/
def generations : History → List Instant
  | [] => []
  | .request _ (.generate start) _ :: past => start :: generations past
  | _ :: past => generations past

/-- All authorities that were made, the last first. -/
def made : History → List Authority
  | [] => []
  | .deed _ _ :: past => made past
  | .request _ r answer :: past => r.made answer ++ made past

theorem mem_made {before : Stores} {start : Instant} {a : Authority}
    (h : .request before (.generate start) (.ok (.ok a)) ∈ past) : a ∈ past.made := by
  induction past with
  | nil => cases h
  | cons e past ih =>
    cases e with
    | deed k d =>
      rcases List.mem_cons.1 h with h | h
      · cases h
      · exact ih h
    | request before' r answer =>
      rcases List.mem_cons.1 h with h | h
      · cases h
        exact List.mem_cons_self
      · exact List.mem_append_right _ (ih h)

/-- Every request of the past, with its answer, was as `P` says. -/
def Every (P : (r : Request) → Except String r.Answer → Prop) (past : History) : Prop :=
  ∀ ⦃before r answer⦄, Event.request before r answer ∈ past → P r answer

section Every

variable {P Q : (r : Request) → Except String r.Answer → Prop}

theorem every_nil : Every P [] := fun _ _ _ h => (List.not_mem_nil h).elim

theorem every_deed {k : Kind} {d : Deed k.Object} :
    Every P (.deed k d :: past) ↔ past.Every P := by
  refine ⟨fun H before r answer h => H (List.mem_cons_of_mem _ h), fun H before r answer h => ?_⟩
  rcases List.mem_cons.1 h with h | h
  · cases h
  · exact H h

theorem every_request {before : Stores} {r : Request} {answer : Except String r.Answer} :
    Every P (.request before r answer :: past) ↔ P r answer ∧ past.Every P := by
  refine ⟨fun H => ⟨H List.mem_cons_self, fun _ _ _ h => H (List.mem_cons_of_mem _ h)⟩, ?_⟩
  rintro ⟨h, H⟩ before' r' answer' hmem
  rcases List.mem_cons.1 hmem with heq | hmem
  · cases heq
    exact h
  · exact H hmem

instance decidableEvery [∀ r answer, Decidable (P r answer)] :
    (past : History) → Decidable (past.Every P)
  | [] => isTrue every_nil
  | .deed _ _ :: past =>
    have := decidableEvery past
    decidable_of_iff _ every_deed.symm
  | .request _ _ _ :: past =>
    have := decidableEvery past
    decidable_of_iff _ every_request.symm

theorem Every.mono (H : past.Every P) (h : ∀ r answer, P r answer → Q r answer) : past.Every Q :=
  fun _ r answer hmem => h r answer (H hmem)

end Every

theorem generations_of_not_generates {before : Stores} {r : Request}
    {answer : Except String r.Answer} (h : ¬ r.Generates) :
    generations (.request before r answer :: past) = generations past := by
  cases r with
  | generate start => exact absurd trivial h
  | _ => rfl

/-- Where nothing was asked but reads, nothing was written. -/
theorem written_of_readsOnly (H : past.Every fun r _ => r.ReadsOnly) : past.written = [] := by
  induction past with
  | nil => rfl
  | cons e past ih =>
    cases e with
    | deed k d => exact ih (every_deed.1 H)
    | request before r answer =>
      obtain ⟨h, H⟩ := every_request.1 H
      rw [written, Request.landed_of_not_wrote h.not_wrote, ih H, List.append_nil]

end History

namespace Scene

variable {s t : Scene} {α : Type} {p : Script α} {P : Request → Prop}
  {Q : (r : Request) → Except String r.Answer → Prop}

theorem written_stable {ws : List (Kind × String)} :
    Script.Stable Outside fun s => s.past.written = ws :=
  fun _ _ hout hs => hout.keeps (J := fun s => s.past.written = ws) (fun _ _ _ hs => hs) hs

theorem generations_stable {starts : List Instant} :
    Script.Stable Outside fun s => s.past.generations = starts :=
  fun _ _ hout hs => hout.keeps (J := fun s => s.past.generations = starts) (fun _ _ _ hs => hs) hs

theorem every_stable : Script.Stable Outside fun s => s.past.Every Q :=
  fun _ _ hout hs =>
    hout.keeps (J := fun s => s.past.Every Q) (fun _ _ _ hs => History.every_deed.2 hs) hs

theorem every_keeps (H : p.Asks P) (hPQ : ∀ r answer, P r → Q r answer) :
    p.Keeps Outside fun s => s.past.Every Q :=
  H.keeps every_stable fun _ r answer _ _ hr hs => History.every_request.2 ⟨hPQ r answer hr, hs⟩

theorem generations_keeps {starts : List Instant} (H : p.Asks fun r => ¬ r.Generates) :
    p.Keeps Outside fun s => s.past.generations = starts :=
  H.keeps generations_stable fun _ _ _ _ _ hr hs =>
    (History.generations_of_not_generates hr).trans hs

/-- Nobody but other writers is around, and maybe not even they. -/
class Allowed (R : Scene → Scene → Prop) : Prop extends IsPreorder Scene R where
  outside : ∀ {s t : Scene}, R s t → Outside s t

instance : Allowed Outside where
  outside h := h

instance : Allowed Eq where
  outside h := h ▸ .refl

end Scene

/-- Among fewer others a script does nothing that it would not do among more. -/
theorem Script.Runs.outside {α : Type} {p : Script α} {R : Scene → Scene → Prop} [Scene.Allowed R]
    {s t : Scene} {result : Except Stop α} (H : p.Runs R s result t) :
    p.Runs Scene.Outside s result t := by
  induction p generalizing s with
  | done | stop => exact ⟨H.1, Scene.Allowed.outside H.2⟩
  | ask r next ih =>
    obtain ⟨m, answer, stores, hm, hanswer, H⟩ := H
    exact ⟨m, answer, stores, Scene.Allowed.outside hm, hanswer, ih answer H⟩

end TrustAnchor
