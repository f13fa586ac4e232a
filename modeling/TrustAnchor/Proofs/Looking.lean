import TrustAnchor.Proofs.Alone
import TrustAnchor.Proofs.Promptness
import TrustAnchor.Proofs.Spread

/-! Scripts that only look. Where all is as it should be, a script makes its way to a result by
reading objects and the clock, and that result can be computed from what there is to be seen. -/

namespace TrustAnchor

open Script (Attempt)

namespace Request

/-- The request reads an object or the clock. -/
def Looks : Request → Prop
  | .now | .store _ (.get _) => True
  | _ => False

end Request

namespace Scene

/-- There is the same to be seen. -/
structure Same (s t : Scene) : Prop where
  objects : ∀ k, (t.stores k).objects = (s.stores k).objects
  clock : t.clock = s.clock

namespace Same

variable {s t : Scene} {k : Kind} {name : String}

theorem refl (s : Scene) : s.Same s := ⟨fun _ => rfl, rfl⟩

theorem object (H : s.Same t) : t.object k name = s.object k name :=
  congrArg (KeyMap.get? · name) (H.objects k)

end Same

end Scene

namespace Script

variable {α β : Type} {s m t : Scene} {p : Script α} {f : α → Script β} {b : α}

/-- What a script comes to if it only looks at a scene. -/
def look (s : Scene) : Script α → Option α
  | .done a => some a
  | .ask .now next => (next (.ok s.clock)).look s
  | .ask (.store k (.get name)) next => (next (.ok (.ok (s.object k name)))).look s
  | .stop _ | .ask .. => none

theorem look_bind : (p >>= f).look s = (p.look s).bind fun a => (f a).look s := by
  induction p with
  | done a => rfl
  | stop why => rfl
  | ask r next ih =>
    match r with
    | .now => exact ih _
    | .store k (.get name) => exact ih _
    | .store k (.create x) => rfl
    | .store k (.replace x) => rfl
    | .generate start => rfl
    | .chance => rfl
    | .report setback => rfl
    | .sleep d => rfl

theorem look_attempt {x : Attempt α} {g : α → Attempt β} (h : x.run.look s = some (.ok b)) :
    (x >>= g).run.look s = (g b).run.look s := by
  rw [ExceptT.run_bind, look_bind, h]
  rfl

/-- A script that can come to a result by looking does so, where nobody else is and no read fails. -/
theorem Runs.look {result : Except Stop α} (H : p.Runs Scene.Alone m result t)
    (hlook : p.look s = some b) (hsame : s.Same m) (hpast : m.past.Every fun r _ => r.Looks)
    (hheard : t.past.Every Request.Heard) :
    result = .ok b ∧ s.Same t ∧ t.past.Every fun r _ => r.Looks := by
  induction p generalizing m with
  | done a =>
    cases hlook
    obtain ⟨rfl, rfl⟩ := H
    exact ⟨rfl, hsame, hpast⟩
  | stop why => cases hlook
  | ask r next ih =>
    obtain ⟨m, answer, stores, rfl, hanswer, H⟩ := H
    match r with
    | .now =>
      cases hanswer
      rw [Script.look, ← hsame.clock] at hlook
      exact ih _ H hlook ⟨hsame.objects, hsame.clock⟩ (History.every_request.2 ⟨trivial, hpast⟩)
    | .store k (.get name) =>
      have hmem : .request m.stores (.store k (.get name)) answer ∈ t.past :=
        Scene.mem_past_keeps _ (next answer) (List.mem_cons_self : _ ∈ (m.after hanswer).past)
          H.outside
      match answer with
      | .error text => exact (hheard hmem).elim
      | .ok (.error e) => exact (hheard hmem).elim
      | .ok (.ok found) =>
        obtain ⟨halike, hfound⟩ := hanswer.get
        rw [Script.look, ← hsame.object, hfound rfl] at hlook
        refine ih _ H hlook ⟨fun k' => ?_, hsame.clock⟩ (History.every_request.2 ⟨trivial, hpast⟩)
        exact (halike k').objects.trans (hsame.objects k')
    | .store k (.create x) | .store k (.replace x) => cases hlook
    | .generate start | .chance | .report setback | .sleep d => cases hlook

/-! ## Side by side -/

/-- What there is to be seen as replies to the requests that look. -/
def looking (s : Scene) : Replies Unit
  | .now, _ => some (.ok s.clock, ())
  | .store k (.get name), _ => some (.ok (.ok (s.object k name)), ())
  | _, _ => none

theorem look_eq (s : Scene) (p : Script α) : p.look s = (p.reach (looking s) ()).map Prod.fst := by
  induction p with
  | done a => rfl
  | stop why => rfl
  | ask r next ih =>
    match r with
    | .now | .store k (.get name) => exact ih _
    | .store k (.create x) | .store k (.replace x) => rfl
    | .generate start | .chance | .report setback | .sleep d => rfl

theorem look_together {ps : List (Script α)} {rounds : Nat} (hrounds : rounds ≠ 0)
    (H : ∀ p ∈ ps, p.look s = some b) :
    (together rounds ps).look s = some (ps.map fun _ => .ok b) := by
  have hreach : ∀ p ∈ ps, ∀ u, True → ∃ a t, p.reach (looking s) u = some (a, t) ∧ a = b ∧ True := by
    intro p hp u _
    have hlook := H p hp
    rw [look_eq] at hlook
    obtain ⟨⟨a, t⟩, hreach, rfl⟩ := Option.map_eq_some_iff.1 hlook
    exact ⟨a, t, hreach, rfl, trivial⟩
  obtain ⟨as, t, hlength, has, -, hreach⟩ :=
    reach_together (fun _ _ => rfl) hrounds hreach trivial
  rw [look_eq, hreach, List.eq_replicate_of_mem has, hlength, List.map_replicate, List.map_const']
  rfl

end Script

end TrustAnchor
