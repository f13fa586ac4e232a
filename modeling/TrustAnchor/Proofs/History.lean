import TrustAnchor.Proofs.Runs

/-! What the past says about the present. The last call that a script made on an object shows how
the object was then, and so it still is unless another writer did something to it since. -/

namespace TrustAnchor

/-- What a call shows of its object: a read, what it found; a write, what it wrote. -/
def Call.shown {α : Type} : (c : Call α) → Except String c.Answer → Option (Option α)
  | .get _, .ok (.ok found) => some found
  | .create _, .ok (.ok x) | .replace _, .ok (.ok x) => some (some x)
  | _, _ => none

/-- The request is a call that shows an object of which `φ` holds. -/
inductive Request.Shows (k : Kind) (φ : Option k.Object → Prop) :
    (r : Request) → Except String r.Answer → Prop
  | intro {c : Call k.Object} {answer : Except String c.Answer} {found : Option k.Object} :
    c.shown answer = some found → φ found → Shows k φ (.store k c) answer

/-- The request is a write, and it went well. -/
def Request.Wrote : (r : Request) → Except String r.Answer → Prop
  | .store _ (.create _), .ok (.ok _) | .store _ (.replace _), .ok (.ok _) => True
  | _, _ => False

instance : (r : Request) → (answer : Except String r.Answer) → Decidable (r.Wrote answer)
  | .store _ (.create _), .ok (.ok _) | .store _ (.replace _), .ok (.ok _) => isTrue trivial
  | .store _ (.create _), .ok (.error _) | .store _ (.replace _), .ok (.error _)
  | .store _ (.create _), .error _ | .store _ (.replace _), .error _
  | .store _ (.get _), _ | .now, _ | .generate _, _ | .chance, _ | .report _, _
  | .sleep _, _ => isFalse id

theorem Request.Wrote.of_create {k : Kind} {x : k.Object}
    {answer : Except String (Except Error k.Object)}
    (h : (Request.store k (.create x)).Wrote answer) : ∃ y, answer = .ok (.ok y) := by
  rcases answer with text | e | y
  · exact h.elim
  · exact h.elim
  · exact ⟨y, rfl⟩

theorem Request.Wrote.of_replace {k : Kind} {x : k.Object}
    {answer : Except String (Except Error k.Object)}
    (h : (Request.store k (.replace x)).Wrote answer) : ∃ y, answer = .ok (.ok y) := by
  rcases answer with text | e | y
  · exact h.elim
  · exact h.elim
  · exact ⟨y, rfl⟩

/-- A request that only reads does not write. -/
theorem Request.ReadsOnly.not_wrote {r : Request} {answer : Except String r.Answer}
    (h : r.ReadsOnly) : ¬ r.Wrote answer := by
  cases r with
  | store k c =>
    cases c with
    | get name => cases answer <;> exact id
    | create x => cases h
    | replace x => cases h
  | _ => exact id

/-- The request read an object, and this is what it found. -/
inductive Request.Reads (k : Kind) (found : Option k.Object) :
    (r : Request) → Except String r.Answer → Prop
  | intro {name : String} : Reads k found (.store k (.get name)) (.ok (.ok found))

namespace History

/-- Of the script's calls on an object the last one was, with its answer, as `Q` says. -/
def LastCall (k : Kind) (name : String) (Q : (r : Request) → Except String r.Answer → Prop) :
    History → Prop
  | [] => False
  | .deed _ _ :: past => LastCall k name Q past
  | .request _ r answer :: past =>
    r.On k name ∧ Q r answer ∨ ¬ r.On k name ∧ LastCall k name Q past

/-- No other writer has done anything to an object since the script's last call on it. -/
def Undisturbed (k : Kind) (name : String) : History → Prop
  | [] => True
  | .deed k' d :: past => ¬ (Event.deed k' d).DeedOn k name ∧ Undisturbed k name past
  | .request _ r _ :: past => r.On k name ∨ Undisturbed k name past

instance decidableUndisturbed (k : Kind) (name : String) :
    (past : History) → Decidable (past.Undisturbed k name)
  | [] => isTrue trivial
  | .deed _ _ :: past =>
    have := decidableUndisturbed k name past
    inferInstanceAs (Decidable (_ ∧ _))
  | .request .. :: past =>
    have := decidableUndisturbed k name past
    inferInstanceAs (Decidable (_ ∨ _))

/-- A read has found the object like this, and nobody has done anything to it since. -/
def Kept (k : Kind) (name : String) (found : Option k.Object) : History → Prop
  | [] => False
  | .deed k' d :: past => ¬ (Event.deed k' d).DeedOn k name ∧ Kept k name found past
  | .request _ r answer :: past =>
    r.On k name ∧ r.Reads k found answer ∨
      ¬ (r.On k name ∧ r.Wrote answer) ∧ Kept k name found past

variable {past : History} {k : Kind} {name : String}

end History

namespace Scene

open History

variable {s t : Scene} {k : Kind} {name : String} {φ : Option k.Object → Prop} {r : Request}
  {answer : Except String r.Answer} {stores : Stores}

/-- Nothing that happened is forgotten. -/
theorem mem_past_stable (e : Event) : Script.Stable Outside fun s => e ∈ s.past :=
  fun _ _ hout he =>
    hout.keeps (J := fun s => e ∈ s.past) (fun _ _ _ he => List.mem_cons_of_mem _ he) he

theorem mem_past_keeps {α : Type} (e : Event) (p : Script α) :
    p.Keeps Outside fun s => e ∈ s.past :=
  (Script.Asks.any p).keeps (mem_past_stable e) fun _ _ _ _ _ _ he => List.mem_cons_of_mem _ he

section LastCall

variable {Q : (r : Request) → Except String r.Answer → Prop}

/-- Others do not change which call was the last one. -/
theorem lastCall_stable : Script.Stable Outside fun s => s.past.LastCall k name Q :=
  fun _ _ hout hs => hout.keeps (J := fun s => s.past.LastCall k name Q) (fun _ _ _ hs => hs) hs

/-- Neither does a script that does not call the object. -/
theorem lastCall_keeps {α : Type} {p : Script α} {S : Kind → String → Prop}
    (H : p.Asks (Request.Within S)) (hS : ¬ S k name) :
    p.Keeps Outside fun s => s.past.LastCall k name Q :=
  H.keeps lastCall_stable fun _ _ _ _ _ hwithin hs => .inr ⟨hwithin.not_on hS, hs⟩

end LastCall

/-- After a call the object is as the call shows it. -/
theorem Answers.object_shown {c : Call k.Object} {answer : Except String c.Answer}
    {found : Option k.Object} (H : s.Answers (.store k c) answer stores)
    (h : c.shown answer = some found) : (stores k).objects.get? c.name = found := by
  match c, answer with
  | .get name, .ok (.ok x) =>
    cases h
    obtain ⟨halike, hfound⟩ := H.get
    rw [(halike k).objects]
    exact hfound rfl
  | .create x, .ok (.ok y) =>
    cases h
    rcases H.create with ⟨hfails, -⟩ | ⟨hok, -, hgains⟩
    · exact absurd rfl hfails
    · cases hok
      exact hgains.gains.get?_self
  | .replace x, .ok (.ok y) =>
    cases h
    rcases H.replace with ⟨hfails, -⟩ | ⟨hok, -, hgains⟩
    · exact absurd rfl hfails
    · cases hok
      exact hgains.gains.get?_self

/-- A request that writes nothing leaves all objects as they are. -/
theorem Answers.object_eq_of_not_wrote (H : s.Answers r answer stores)
    (h : ¬ (r.On k name ∧ r.Wrote answer)) :
    (stores k).objects.get? name = s.object k name := by
  by_cases hon : r.On k name
  · cases r with
    | store k' c =>
      obtain ⟨rfl, rfl⟩ := hon
      suffices halike : s.stores.Alike stores from
        congrArg (KeyMap.get? · (c.name)) (halike _).objects
      cases c with
      | get name => exact H.get.1
      | create x =>
        rcases H.create with ⟨-, halike⟩ | ⟨rfl, -⟩
        · exact halike
        · exact absurd ⟨⟨rfl, rfl⟩, trivial⟩ h
      | replace x =>
        rcases H.replace with ⟨-, halike⟩ | ⟨rfl, -⟩
        · exact halike
        · exact absurd ⟨⟨rfl, rfl⟩, trivial⟩ h
    | _ => exact hon.elim
  · exact H.object_eq hon

/-- Undisturbed objects are as they were shown last. -/
def Faithful (s : Scene) : Prop :=
  ∀ ⦃k name⦄ ⦃φ : Option k.Object → Prop⦄, s.past.LastCall k name (Request.Shows k φ) →
    s.past.Undisturbed k name → φ (s.object k name)

theorem faithful_of_past_eq_nil (h : s.past = []) : s.Faithful := by
  intro k name φ hlast
  rw [h] at hlast
  exact hlast.elim

namespace Faithful

theorem suffer (H : s.Faithful) (k' : Kind) (d : Deed k'.Object) : (s.suffer k' d).Faithful := by
  intro k name φ hlast hundisturbed
  rw [object_suffer_of_not hundisturbed.1]
  exact H hlast hundisturbed.2

theorem after (H : s.Faithful) (hanswer : s.Answers r answer stores) :
    (s.after hanswer).Faithful := by
  intro k name φ hlast hundisturbed
  rcases hlast with ⟨hon, hshows⟩ | ⟨hoff, hlast⟩
  · cases hshows with
    | intro hshown hφ =>
      obtain ⟨-, rfl⟩ := hon
      rw [object_after, hanswer.object_shown hshown]
      exact hφ
  · rw [object_after, hanswer.object_eq hoff]
    exact H hlast (hundisturbed.resolve_left hoff)

theorem stable : Script.Stable Outside Faithful :=
  fun _ _ hout hs => hout.keeps (J := Faithful) (fun _ k d hs => hs.suffer k d) hs

theorem runs {α : Type} {p : Script α} {result : Except Stop α} (H : s.Faithful)
    (hrun : p.Runs Outside s result t) : t.Faithful :=
  (Script.Asks.any p).keeps stable (fun _ _ _ _ hanswer _ hs => Faithful.after hs hanswer) H hrun

end Faithful

/-- What was read and left alone since is as it was read. -/
def Mindful (k : Kind) (name : String) (s : Scene) : Prop :=
  ∀ ⦃found⦄, s.past.Kept k name found → s.object k name = found

namespace Mindful

theorem of_past_eq_nil (h : s.past = []) : s.Mindful k name := by
  intro found hkept
  rw [h] at hkept
  exact hkept.elim

theorem stable : Script.Stable Outside (Mindful k name) := by
  refine fun _ _ hout hs => hout.keeps (fun s k' d hs found hkept => ?_) hs
  rw [object_suffer_of_not hkept.1]
  exact hs hkept.2

theorem after (H : s.Mindful k name) (hanswer : s.Answers r answer stores) :
    (s.after hanswer).Mindful k name := by
  intro found hkept
  rcases hkept with ⟨hon, hreads⟩ | ⟨hleft, hkept⟩
  · cases hreads
    obtain ⟨-, rfl⟩ := hon
    rw [object_after]
    exact hanswer.object_shown rfl
  · rw [object_after, hanswer.object_eq_of_not_wrote hleft]
    exact H hkept

end Mindful

end Scene

end TrustAnchor
