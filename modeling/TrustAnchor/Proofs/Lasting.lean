import TrustAnchor.Proofs.History

/-! Objects that last. Once a call has seen an object it is there until another writer removes it,
and the past tells whether one has. -/

namespace TrustAnchor

open Scene (Outside)
open Script (Stable)

/-- If a creation was answered with a conflict, there was an object of its name. -/
def Event.Candid : Event → Prop
  | .request before (.store k (.create x)) (.ok (.error e)) =>
    e.isConflict = true → (before k).objects.get? (Resource.anyName x) ≠ none
  | _ => True

instance : (e : Event) → Decidable e.Candid
  | .request before (.store k (.create x)) (.ok (.error e)) =>
    inferInstanceAs (Decidable (e.isConflict = true →
      (before k).objects.get? (Resource.anyName x) ≠ none))
  | .request _ (.store _ (.create _)) (.ok (.ok _)) | .request _ (.store _ (.create _)) (.error _)
  | .request _ (.store _ (.get _)) _ | .request _ (.store _ (.replace _)) _ | .request _ .now _
  | .request _ (.generate _) _ | .request _ .chance _ | .request _ (.report _) _
  | .request _ (.sleep _) _ | .deed _ _ => isTrue trivial

/-- The call has found an object of the name, or has put one there. A creation that is answered with
a conflict has found one. -/
inductive Request.Sees (k : Kind) (name : String) :
    (r : Request) → Except String r.Answer → Prop
  | shown {c : Call k.Object} {answer : Except String c.Answer} {x : k.Object} : c.name = name →
    c.shown answer = some (some x) → Sees k name (.store k c) answer
  | conflict {x : k.Object} {e : Error} : Resource.anyName x = name → e.isConflict = true →
    Sees k name (.store k (.create x)) (.ok (.error e))

/-- A write that goes well puts an object there. -/
theorem Request.Sees.of_wrote {k : Kind} {name : String} {r : Request}
    {answer : Except String r.Answer} (hon : r.On k name) (hwrote : r.Wrote answer) :
    r.Sees k name answer := by
  cases r with
  | store k' c =>
    obtain ⟨rfl, hname⟩ := hon
    cases c with
    | get => cases answer <;> exact hwrote.elim
    | create =>
      obtain ⟨y, rfl⟩ := hwrote.of_create
      exact .shown hname rfl
    | replace =>
      obtain ⟨y, rfl⟩ := hwrote.of_replace
      exact .shown hname rfl
  | _ => exact hon.elim

/-- After this there is an object of the name: another writer has written it, or a call has seen
it. -/
inductive Event.Leaves (k : Kind) (name : String) : Event → Prop
  | written {x : k.Object} : Resource.anyName x = name → Leaves k name (.deed k (.write x))
  | seen {before : Stores} {r : Request} {answer : Except String r.Answer} :
    r.Sees k name answer → Leaves k name (.request before r answer)

namespace History

/-- Creations were answered with a conflict only where there was an object of the name. -/
def Candid (past : History) : Prop := ∀ e ∈ past, e.Candid

instance (past : History) : Decidable past.Candid :=
  inferInstanceAs (Decidable (∀ e ∈ past, e.Candid))

/-- Some call has seen the object. -/
def Seen (k : Kind) (name : String) (past : History) : Prop :=
  ∃ before r answer, .request before r answer ∈ past ∧ r.Sees k name answer

/-- Another writer has removed the object, and nothing has happened since after which there is
one. -/
def Removed (k : Kind) (name : String) : History → Prop
  | [] => False
  | e :: past => e = .deed k (.remove name) ∨ ¬ e.Leaves k name ∧ Removed k name past

variable {past : History} {e : Event} {k : Kind} {name : String}

theorem Candid.of_cons (h : Candid (e :: past)) : past.Candid :=
  fun e he => h e (List.mem_cons_of_mem _ he)

theorem Seen.cons (h : past.Seen k name) : Seen k name (e :: past) := by
  obtain ⟨before, r, answer, hmem, hsees⟩ := h
  exact ⟨before, r, answer, List.mem_cons_of_mem _ hmem, hsees⟩

theorem not_removed_of_leaves (h : e.Leaves k name) : ¬ Removed k name (e :: past) := by
  rintro (rfl | ⟨hleaves, -⟩)
  · cases h
  · exact hleaves h

theorem removed_cons (h : e ≠ .deed k (.remove name)) (hleaves : ¬ e.Leaves k name) :
    Removed k name (e :: past) ↔ past.Removed k name :=
  (or_iff_right h).trans (and_iff_right hleaves)

theorem removed_request {before : Stores} {r : Request} {answer : Except String r.Answer}
    (h : ¬ r.Sees k name answer) :
    Removed k name (.request before r answer :: past) ↔ past.Removed k name := by
  refine removed_cons nofun ?_
  rintro (_ | hsees)
  exact h hsees

theorem removed_deed {k' : Kind} {d : Deed k'.Object} (h : ¬ (Event.deed k' d).DeedOn k name) :
    Removed k name (.deed k' d :: past) ↔ past.Removed k name := by
  refine removed_cons ?_ ?_
  · rintro ⟨⟩
    exact h ⟨rfl, rfl⟩
  · rintro (hname | _)
    exact h ⟨rfl, hname⟩

/-- What others have left alone they have not removed. -/
theorem not_removed (h : ∀ e ∈ past, ¬ e.DeedOn k name) : ¬ past.Removed k name := by
  induction past with
  | nil => exact id
  | cons e past ih =>
    rintro (rfl | ⟨-, hremoved⟩)
    · exact h _ List.mem_cons_self ⟨rfl, rfl⟩
    · exact ih (fun e he => h e (List.mem_cons_of_mem _ he)) hremoved

end History

namespace Scene

variable {s t : Scene} {k : Kind} {name : String} {r : Request} {answer : Except String r.Answer}
  {stores : Stores}

/-- The object has been seen, and is there unless another writer has removed it since; if conflicts
tell the truth. -/
def Lasting (k : Kind) (name : String) (s : Scene) : Prop :=
  s.past.Candid → s.past.Seen k name ∧ (s.object k name ≠ none ↔ ¬ s.past.Removed k name)

theorem Lasting.suffer (hs : s.Lasting k name) (k' : Kind) (d : Deed k'.Object) :
    (s.suffer k' d).Lasting k name := by
  intro hcandid
  obtain ⟨hseen, hthere⟩ := hs hcandid.of_cons
  refine ⟨hseen.cons, ?_⟩
  by_cases hon : (Event.deed k' d).DeedOn k name
  · obtain ⟨rfl, rfl⟩ := hon
    cases d with
    | write x =>
      refine iff_of_true (fun hnone => ?_) (History.not_removed_of_leaves (.written rfl))
      rw [object_suffer] at hnone
      cases ((s.stores k').gains_put x).get?_self.symm.trans hnone
    | remove name =>
      refine iff_of_false (fun hthere => hthere ?_) (not_not.2 (.inl rfl))
      rw [object_suffer]
      exact KeyMap.get?_erase_self
  · rw [object_suffer_of_not hon]
    exact hthere.trans (not_congr (History.removed_deed hon).symm)

theorem lasting_stable : Stable Outside (Lasting k name) :=
  fun _ _ hout hs => hout.keeps (fun _ k d hs => Lasting.suffer hs k d) hs

/-- A call that sees an object leaves it there. -/
theorem Answers.lasting (h : s.Answers r answer stores) (hsees : r.Sees k name answer) :
    (s.after h).Lasting k name := by
  intro hcandid
  refine ⟨⟨_, r, answer, List.mem_cons_self, hsees⟩,
    iff_of_true ?_ (History.not_removed_of_leaves (.seen hsees))⟩
  rw [object_after]
  cases hsees with
  | shown hname hshown =>
    subst hname
    rw [h.object_shown hshown]
    nofun
  | @conflict x e hname hconflict =>
    subst hname
    have hthere : s.object k (Resource.anyName x) ≠ none := hcandid _ List.mem_cons_self hconflict
    rcases h.create with ⟨-, halike⟩ | ⟨hok, -⟩
    · rwa [(halike k).objects]
    · cases hok

/-- Without a call that sees it, an object neither comes nor goes. -/
theorem Lasting.after (hs : s.Lasting k name) (h : s.Answers r answer stores) :
    (s.after h).Lasting k name := by
  by_cases hsees : r.Sees k name answer
  · exact h.lasting hsees
  intro hcandid
  obtain ⟨hseen, hthere⟩ := hs hcandid.of_cons
  refine ⟨hseen.cons, ?_⟩
  rw [object_after, h.object_eq_of_not_wrote fun ⟨hon, hwrote⟩ => hsees (.of_wrote hon hwrote)]
  exact hthere.trans (not_congr (History.removed_request hsees).symm)

theorem Lasting.runs {α : Type} {p : Script α} {result : Except Stop α} (hs : s.Lasting k name)
    (hrun : p.Runs Outside s result t) : t.Lasting k name :=
  (Script.Asks.any p).keeps lasting_stable (fun _ _ _ _ h _ hs => Lasting.after hs h) hs hrun

end Scene

end TrustAnchor
