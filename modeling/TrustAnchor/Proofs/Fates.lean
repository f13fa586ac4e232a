import TrustAnchor.Proofs.Runs

/-! Surroundings that decide. What other writers do before a request, and what becomes of the
request, is settled by what has happened so far. Among such surroundings a script has one run, and
every run among other writers is that of some such surroundings. -/

namespace TrustAnchor

open Scene

/-- What becomes of a call. -/
inductive Passage where
  | free
  | refused (e : Error)
  | panicked (text : String)

/-- What the surroundings do about a request. -/
structure Fate where
  /-- What other writers do before the request. -/
  deeds : List ((k : Kind) × Deed k.Object)
  passage : Passage
  /-- What is answered if an authority is asked for. -/
  made : Except String (Except AuthorityError Authority)
  /-- The number that is drawn if one is asked for. -/
  drawn : Binary64

/-- Nobody does anything, and the stores do what they are asked for. -/
def Fate.quiet : Fate where
  deeds := []
  passage := .free
  made := .error ""
  drawn := .ofRatio false 1 2

namespace Scene

variable {s : Scene} {f : Fate} {r : Request}

/-- Others do one deed after the other. -/
def sufferAll (s : Scene) (deeds : List ((k : Kind) × Deed k.Object)) : Scene :=
  deeds.foldl (fun s d => s.suffer d.1 d.2) s

/-- The answer to a request, and the stores that it leaves. -/
def respond (s : Scene) (f : Fate) : (r : Request) → Except String r.Answer × Stores
  | .store k c =>
    match f.passage with
    | .free => (.ok (Site.perform (s.stores k) c).1,
        Function.update s.stores k (Site.perform (s.stores k) c).2)
    | .refused e => (.ok (Site.refuse e c), s.stores)
    | .panicked text => (.error text, s.stores)
  | .now => (.ok s.clock, s.stores)
  | .generate _ => (f.made, s.stores)
  | .chance => (.ok f.drawn, s.stores)
  | .report _ | .sleep _ => (.ok (), s.stores)

theorem answers_respond (s : Scene) (f : Fate) (r : Request) :
    s.Answers r (s.respond f r).1 (s.respond f r).2 := by
  cases r with
  | store k c =>
    simp only [respond]
    cases f.passage with
    | free => exact .performed k c
    | refused e => exact .refused k c e
    | panicked text => exact .panicked k c text
  | now => exact .now
  | generate start => exact .generated start f.made
  | chance => exact .chance f.drawn
  | report setback => exact .reported setback
  | sleep d => exact .slept d

/-- The answer to a request, and the scene after it. -/
def meet (s : Scene) (f : Fate) (r : Request) : Except String r.Answer × Scene :=
  ((s.respond f r).1, s.after (s.answers_respond f r))

/-- Every answer can be the surroundings' doing. -/
theorem Answers.exists_fate {answer : Except String r.Answer} {stores : Stores}
    (H : s.Answers r answer stores) (deeds : List ((k : Kind) × Deed k.Object)) :
    ∃ f : Fate, f.deeds = deeds ∧ s.respond f r = (answer, stores) := by
  let quiet : Fate := { Fate.quiet with deeds }
  cases H with
  | performed k c => exact ⟨quiet, rfl, rfl⟩
  | refused k c e => exact ⟨{ quiet with passage := .refused e }, rfl, rfl⟩
  | panicked k c text => exact ⟨{ quiet with passage := .panicked text }, rfl, rfl⟩
  | generated start made => exact ⟨{ quiet with made }, rfl, rfl⟩
  | chance u => exact ⟨{ quiet with drawn := u }, rfl, rfl⟩
  | now | reported | slept => exact ⟨quiet, rfl, rfl⟩

theorem sufferAll_outside (deeds : List ((k : Kind) × Deed k.Object)) :
    Outside s (s.sufferAll deeds) := by
  induction deeds generalizing s with
  | nil => exact .refl
  | cons d deeds ih => exact .head ⟨d.1, d.2, rfl⟩ ih

theorem Outside.exists_deeds {t : Scene} (H : Outside s t) : ∃ deeds, t = s.sufferAll deeds := by
  induction H with
  | refl => exact ⟨[], rfl⟩
  | tail _ hstep ih =>
    obtain ⟨deeds, rfl⟩ := ih
    obtain ⟨k, d, rfl⟩ := hstep
    refine ⟨deeds ++ [⟨k, d⟩], ?_⟩
    simp only [sufferAll, List.foldl_concat]

theorem length_past_sufferAll (deeds : List ((k : Kind) × Deed k.Object)) :
    s.past.length ≤ (s.sufferAll deeds).past.length :=
  (sufferAll_outside deeds).keeps (J := fun t => s.past.length ≤ t.past.length)
    (fun _ _ _ h => h.trans (Nat.le_succ _)) (Nat.le_refl _)

end Scene

/-- What the surroundings do depends on what has happened and on the request. -/
def Surroundings := History → Request → Fate

namespace Surroundings

variable {α : Type} {A B : Surroundings} {s t : Scene} {p : Script α}

/-- Answers from a scene as the surroundings have it. -/
def attend (A : Surroundings) : Handler Scene := fun r s =>
  (s.sufferAll (A s.past r).deeds).meet (A s.past r) r

theorem runs (A : Surroundings) (p : Script α) (s : Scene) :
    p.Runs Outside s (p.run A.attend s).1 (p.run A.attend s).2 := by
  induction p generalizing s with
  | done a => exact ⟨rfl, .refl⟩
  | stop why => exact ⟨rfl, .refl⟩
  | ask r next ih =>
    exact ⟨_, _, _, sufferAll_outside _, answers_respond _ _ r, ih _ _⟩

/-- Only what the surroundings do from now on matters. -/
theorem run_congr (h : ∀ past r, s.past.length ≤ past.length → A past r = B past r) :
    p.run A.attend s = p.run B.attend s := by
  induction p generalizing s with
  | done | stop => rfl
  | ask r next ih =>
    have hattend : A.attend r s = B.attend r s := by
      unfold attend
      rw [h s.past r (Nat.le_refl _)]
    rw [Script.run_ask, Script.run_ask, hattend]
    refine ih _ fun past r' hlength => h past r' ?_
    exact ((length_past_sufferAll _).trans (Nat.le_succ _)).trans hlength

/-- Whatever a script can do among other writers it does in some surroundings. -/
theorem exists_of_runs {result : Except Stop α} (H : p.Runs Outside s result t) :
    ∃ (A : Surroundings) (deeds : List ((k : Kind) × Deed k.Object)),
      (p.run A.attend s).1 = result ∧ t = (p.run A.attend s).2.sufferAll deeds := by
  induction p generalizing s with
  | done a =>
    obtain ⟨rfl, H⟩ := H
    obtain ⟨deeds, rfl⟩ := H.exists_deeds
    exact ⟨fun _ _ => .quiet, deeds, rfl, rfl⟩
  | stop why =>
    obtain ⟨rfl, H⟩ := H
    obtain ⟨deeds, rfl⟩ := H.exists_deeds
    exact ⟨fun _ _ => .quiet, deeds, rfl, rfl⟩
  | ask r next ih =>
    obtain ⟨m, answer, stores, hm, hanswer, H⟩ := H
    obtain ⟨before, rfl⟩ := hm.exists_deeds
    obtain ⟨f, rfl, hrespond⟩ := hanswer.exists_fate before
    obtain ⟨A, deeds, hresult, rfl⟩ := ih answer H
    -- The past grows with every request, so its length tells the first request from all others.
    let B : Surroundings := fun past r => if past.length ≤ s.past.length then f else A past r
    have hfirst : B.attend r s = (answer, (s.sufferAll f.deeds).after hanswer) := by
      have hf : B s.past r = f := if_pos (Nat.le_refl _)
      unfold attend
      simp only [hf, meet, hrespond]
    have hrest : (next answer).run B.attend ((s.sufferAll f.deeds).after hanswer) =
        (next answer).run A.attend ((s.sufferAll f.deeds).after hanswer) := by
      refine run_congr fun past r' hlength => if_neg (Nat.not_le.2 ?_)
      exact Nat.lt_of_le_of_lt (length_past_sufferAll _) hlength
    refine ⟨B, deeds, ?_⟩
    rw [Script.run_ask, hfirst, hrest]
    exact ⟨hresult, rfl⟩

end Surroundings

end TrustAnchor
