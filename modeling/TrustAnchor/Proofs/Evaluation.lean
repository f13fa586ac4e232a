import TrustAnchor.Proofs.Alone
import TrustAnchor.Proofs.Ledger
import TrustAnchor.Proofs.Success

/-! What a script comes to in a given world, and what it leaves of it. In a clear world there is
nobody else, so an object is left as the last call on it has shown it. -/

namespace TrustAnchor

open Script (Attempt)

/-- Without other writers nothing is ever disturbed. -/
theorem Scene.undisturbed_alone {α : Type} {k : Kind} {name : String} (p : Script α) :
    p.Keeps Alone fun s => s.past.Undisturbed k name :=
  (Script.Asks.any p).keeps stable_alone fun _ _ _ _ _ _ hs => .inr hs

namespace World

variable {α β : Type} {U : Binary64 → Prop} {w : World Cluster} {p : Script α} {k : Kind}
  {name : String}

/-- What a script comes to in a world. -/
def result (w : World Cluster) (p : Script α) : Except Stop α :=
  (p.run (handler Cluster.backend) w).1

/-- What a script leaves of a world. -/
def left (w : World Cluster) (p : Script α) : World Cluster :=
  (p.run (handler Cluster.backend) w).2

/-- The only move that a world makes at a request. -/
def moves : Script.Moves (World Cluster) := fun w r answer w' => answer = w.answer r ∧ w' = w.after r

theorem follows (w : World Cluster) (p : Script α) : p.Follows moves w (w.result p) (w.left p) :=
  Script.follows_run (handler Cluster.backend) p w

theorem result_ask {r : Request} {next : Except String r.Answer → Script α}
    {answer : Except String r.Answer} (h : w.answer r = answer) :
    w.result (.ask r next) = (w.after r).result (next answer) := h ▸ rfl

theorem left_ask {r : Request} {next : Except String r.Answer → Script α}
    {answer : Except String r.Answer} (h : w.answer r = answer) :
    w.left (.ask r next) = (w.after r).left (next answer) := h ▸ rfl

/-- No script brings weather up. -/
theorem weather_left (H : (w.objects.site k).weather.Clear) (p : Script α) :
    ((w.left p).objects.site k).weather.Clear := by
  induction p generalizing w with
  | done | stop => exact H
  | ask r next ih => exact ih _ (weather_after H r)

/-- An attempt comes to a good end in a world, and leaves it as another one. -/
structure Yields (w : World Cluster) (x : Attempt α) (a : α) (w' : World Cluster) : Prop where
  result : w.result x.run = .ok (.ok a)
  left : w.left x.run = w'

namespace Yields

variable {w' w'' : World Cluster} {x : Attempt α} {g : α → Attempt β} {a : α} {b : β}

theorem of_result (h : w.result x.run = .ok (.ok a)) : w.Yields x a (w.left x.run) := ⟨h, rfl⟩

protected theorem pure : w.Yields (pure a) a w := ⟨rfl, rfl⟩

theorem bind (H : w.Yields x a w') (K : w'.Yields (g a) b w'') : w.Yields (x >>= g) b w'' := by
  obtain ⟨hresult, rfl⟩ := H
  rw [World.result] at hresult
  cases hx : x.run.run (handler Cluster.backend) w with
  | mk outcome w' =>
    have hleft : w.left x.run = w' := by rw [World.left, hx]
    rw [hleft] at K
    rw [hx] at hresult
    cases hresult
    refine ⟨Eq.trans ?_ K.result, Eq.trans ?_ K.left⟩
    · simp only [World.result, ExceptT.run_bind, Script.run_bind, hx]
    · simp only [World.left, ExceptT.run_bind, Script.run_bind, hx]

theorem ask {r : Request} {next : Except String r.Answer → Script (Except Error α)}
    {answer : Except String r.Answer} (h : w.answer r = answer)
    (K : (w.after r).Yields (ExceptT.mk (next answer)) a w') :
    w.Yields (ExceptT.mk (.ask r next)) a w' :=
  ⟨(result_ask h).trans K.result, (left_ask h).trans K.left⟩

/-- A request that cannot fail as an attempt does. -/
theorem lift {r : Request} {a : r.Answer} (h : w.answer r = .ok a) :
    w.Yields (liftM (Script.request r)) a (w.after r) :=
  ask h .pure

end Yields

namespace Clear

/-- In a clear world no read fails. -/
theorem heard {past : History} (H : w.Clear U) (p : Script α)
    (hpast : past.Every Request.Heard) : (p.run logged (w, past)).2.2.Every Request.Heard := by
  induction p generalizing w past with
  | done | stop => exact hpast
  | ask r next ih =>
    have hlately : w.lately past r = past := by
      rw [lately, H.calm.meanwhile]
    have hanswer : r.Heard (w.answer r) := by
      cases r with
      | store k c =>
        cases c with
        | get name =>
          rw [(H.read k name).1]
          trivial
        | create | replace => trivial
      | now | generate | chance | report | sleep => trivial
    refine ih _ (H.after r) ?_
    rw [hlately]
    exact History.every_request.2 ⟨hanswer, hpast⟩

/-- In a clear world a script runs as it does alone, and no read fails. -/
theorem runs (H : w.Clear U) (p : Script α) : ∃ sound past, past.Every Request.Heard ∧
    p.Runs Scene.Alone (w.scene H.sound []) (w.result p) ((w.left p).scene sound past) := by
  obtain ⟨hresult, hleft⟩ := run_logged p w []
  obtain ⟨sound, hrun⟩ : ∃ sound, p.Runs Scene.Alone (w.scene H.sound []) _ _ :=
    runs_alone H.calm p
  rw [World.left, World.result, ← hresult]
  generalize hw : (p.run (handler Cluster.backend) w).2 = w' at hleft
  subst hleft
  exact ⟨sound, _, H.heard p History.every_nil, hrun⟩

theorem possible (H : w.Clear U) (r : Request) : r.Possible (w.answer r) := by
  have hstores : w.met r = w.objects.stores := by
    rw [met, H.calm.meanwhile]
  exact (answers_handler (w := w) (s := w.scene H.sound []) hstores.symm rfl).possible

/-- A script in a clear world leaves it clear, brings up no conflicts, and does nothing to the objects
that it is not about. -/
theorem left {S : Kind → String → Prop} (H : w.Clear U) (hasks : p.Asks (Request.Within S)) :
    (w.left p).Clear U ∧ (∀ k, (w.left p).pending k ≤ w.pending k) ∧
      ∀ {k name}, ¬ S k name → (w.left p).object k name = w.object k name := by
  induction p generalizing w with
  | done | stop => exact ⟨H, fun _ => Nat.le_refl _, fun _ => rfl⟩
  | ask r next ih =>
    obtain ⟨hclear, hpending, hobject⟩ := ih _ (H.after r) (hasks.2 _ (H.possible r))
    refine ⟨hclear, fun k => (hpending k).trans (H.pending_after r), fun h => ?_⟩
    exact (hobject h).trans (H.object_after (hasks.1.not_on h))

theorem left_clear (H : w.Clear U) (p : Script α) : (w.left p).Clear U := by
  have hany : p.Asks (Request.Within fun _ _ => True) :=
    (Script.Asks.any p).mono fun r _ => by cases r <;> trivial
  exact (H.left hany).1

/-- The time does not matter. -/
theorem atTime (H : w.Clear U) (now : Instant) :
    World.Clear U { w with env := { w.env with clock := now } } :=
  ⟨H.sound, H.weather, H.willing, H.offers⟩

theorem leads {Q : α → Option k.Object → Nat → Prop} {n : Nat} (H : w.Clear U)
    (hleads : p.Leads U k name Q (w.object k name) n) (hn : w.pending k ≤ n) :
    ∃ a m, w.result p = .ok a ∧ Q a ((w.left p).object k name) m := by
  induction p generalizing w n with
  | done a => exact ⟨a, n, rfl, hleads⟩
  | stop why => exact hleads.elim
  | ask r next ih =>
    obtain ⟨m, hm, hleads⟩ := hleads.2 H rfl hn
    exact ih _ (H.after r) hleads hm

/-- What is read is what is there. -/
theorem yields_get (H : w.Clear U) :
    w.Yields (Script.get k name) (w.object k name) (w.after (.store k (.get name))) :=
  .ask (H.read k name).1 .pure

/-- An object is left as its last call has shown it. -/
theorem object_left {φ : Option k.Object → Prop} (H : w.Clear U)
    (hlast : ∀ {s t}, p.Runs Scene.Outside s (w.result p) t →
      t.past.LastCall k name (Request.Shows k φ)) : φ ((w.left p).object k name) := by
  obtain ⟨sound, past, -, hrun⟩ := H.runs p
  have hstart : (w.scene H.sound []).past.Undisturbed k name := trivial
  have hfaithful := (Scene.faithful_of_past_eq_nil rfl).runs hrun.outside
  exact hfaithful (hlast hrun.outside) (Scene.undisturbed_alone p hstart hrun)

end Clear

end World

end TrustAnchor
