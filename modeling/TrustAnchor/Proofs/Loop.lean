import TrustAnchor.Proofs.Runs
import TrustAnchor.Retry.Loop

/-! Loops that try again. Between two attempts a loop only draws a random number, reports and
sleeps. -/

namespace TrustAnchor

/-- The requests that loops make between attempts. -/
def Request.Idle : Request → Prop
  | .chance | .report _ | .sleep _ => True
  | _ => False

namespace Request.Idle

variable {r : Request} {k : Kind} {name : String}

theorem not_on (h : r.Idle) : ¬ r.On k name := by
  cases r with
  | store => exact h.elim
  | _ => exact id

theorem within {S : Kind → String → Prop} (h : r.Idle) : r.Within S := by
  cases r with
  | store => exact h.elim
  | _ => trivial

end Request.Idle

namespace Retry

open Script

variable {α ε : Type} {s : Schedule} {operation : String} {body : Nat → Script (Except ε α)}
  {again : ε → Bool} {horizon rounds attempt : Nat} {delay : Duration}

/-- What holds of a loop: it holds of scripts that give up, of idle requests before scripts that it
holds of, and of every attempt that is followed by such a script when it fails. -/
theorem attempts_induction {C : Script (Except ε α) → Prop} (stop : ∀ why, C (.stop why))
    (fail : ∀ e, C (.done (.error e)))
    (idle : ∀ {r next}, r.Idle → (∀ answer, C (next answer)) → C (.ask r next))
    (tries : ∀ {n f}, (∀ a, f (.ok a) = .done (.ok a)) → (∀ e, C (f (.error e))) →
      C (body n >>= f)) :
    C (attempts s operation again body rounds attempt delay) := by
  have request {r : Request} {f : r.Answer → Script (Except ε α)} (hr : r.Idle)
      (hf : ∀ a, C (f a)) : C (Script.request r >>= f) := by
    refine idle hr fun answer => ?_
    cases answer with
    | ok a => exact hf a
    | error text => exact stop _
  have checked {d : Except Duration.ConversionFault Duration}
      {f : Duration → Script (Except ε α)} (hf : ∀ d, C (f d)) : C (checked d >>= f) := by
    cases d with
    | ok d => exact hf d
    | error fault => exact stop _
  induction rounds generalizing attempt delay with
  | zero => exact stop _
  | succ rounds ih =>
    rw [attempts]
    refine tries (fun a => rfl) fun e => ?_
    dsimp only
    split
    · exact fail e
    · split
      · exact request trivial fun _ => fail e
      · refine request trivial fun u => checked fun pause => ?_
        refine request trivial fun _ => request trivial fun _ => checked fun delay => ?_
        exact ih

theorem attempts_asks {P : Request → Prop} (hP : ∀ {r}, r.Idle → P r) (H : ∀ n, (body n).Asks P) :
    (attempts s operation again body rounds attempt delay).Asks P :=
  attempts_induction (fun _ => trivial) (fun _ => trivial)
    (fun hr hnext => ⟨hP hr, fun answer _ => hnext answer⟩)
    fun {n f} hok hfail => (H n).bind fun answer => by
      cases answer with
      | ok a => rw [hok]; trivial
      | error e => exact hfail e

section Runs

variable {R : Scene → Scene → Prop} {J : Scene → Prop} [IsPreorder Scene R]

theorem attempts_keeps (hR : Stable R J)
    (hidle : ∀ ⦃s r answer stores⦄ (h : s.Answers r answer stores), r.Idle → J s → J (s.after h))
    (H : ∀ n, (body n).Keeps R J) :
    (attempts s operation again body rounds attempt delay).Keeps R J := by
  refine attempts_induction (C := Keeps R J) (.stop hR) (fun _ => .done hR _)
    (fun hr hnext => ?_) fun {n f} hok hfail => Keeps.bind (H n) fun answer => ?_
  · rintro s result t hs ⟨m, answer, stores, hm, hanswer, hrun⟩
    exact hnext answer (hidle hanswer hr (hR hm hs)) hrun
  · cases answer with
    | ok a =>
      rw [hok]
      exact .done hR _
    | error e => exact hfail e

theorem attempts_fails (hR : Stable R J)
    (hidle : ∀ ⦃s r answer stores⦄ (h : s.Answers r answer stores), r.Idle → J s → J (s.after h))
    (H : ∀ n, (body n).KeepsFailing R J) :
    (attempts s operation again body rounds attempt delay).KeepsFailing R J := by
  refine attempts_induction (C := KeepsFailing R J) (fun _ => ?_) (fun _ => ?_) (fun hr hnext => ?_)
    fun {n f} hok hfail => ?_
  · exact fun _ _ _ hs hrun _ => hR hrun.2 hs
  · exact fun _ _ _ hs hrun _ => hR hrun.2 hs
  · rintro s result t hs ⟨m, answer, stores, hm, hanswer, hrun⟩ hresult
    exact hnext answer (hidle hanswer hr (hR hm hs)) hrun hresult
  · intro s result t hs hrun hresult
    rcases hrun.bind with ⟨why, -, hbody⟩ | ⟨answer, m, hbody, hrest⟩
    · exact H n hs hbody (not_wentWell_stop why)
    · cases answer with
      | ok a =>
        rw [hok] at hrest
        exact absurd ⟨a, hrest.1⟩ hresult
      | error e => exact hfail e (H n hs hbody (not_wentWell_error e)) hrest hresult

/-- When a loop succeeds, its last attempt has succeeded, in a scene of which everything holds that
failing attempts keep. -/
theorem attempts_ok (hR : Stable R J)
    (hidle : ∀ ⦃s r answer stores⦄ (h : s.Answers r answer stores), r.Idle → J s → J (s.after h))
    (H : ∀ n, (body n).KeepsFailing R J)
    {s₀ t : Scene} {a : α} (hs : J s₀)
    (hrun : (attempts s operation again body rounds attempt delay).Runs R s₀ (.ok (.ok a)) t) :
    ∃ n m, J m ∧ (body n).Runs R m (.ok (.ok a)) t := by
  refine attempts_induction (C := fun p => ∀ {s}, J s → p.Runs R s (.ok (.ok a)) t →
    ∃ n m, J m ∧ (body n).Runs R m (.ok (.ok a)) t) (fun why => ?_) (fun e => ?_)
    (fun hr hnext => ?_) (fun {n f} hok hfail => ?_) hs hrun
  · intro m _ hrun
    cases hrun.1
  · intro m _ hrun
    cases hrun.1
  · rintro s hs ⟨m, answer, stores, hm, hanswer, hrun⟩
    exact hnext answer (hidle hanswer hr (hR hm hs)) hrun
  · intro s hs hrun
    obtain ⟨answer, m, hbody, hrest⟩ := hrun.bind_ok
    cases answer with
    | ok b =>
      rw [hok] at hrest
      obtain ⟨hb, hR⟩ := hrest
      cases hb
      exact ⟨n, s, hs, hbody.after hR⟩
    | error e => exact hfail e (H n hs hbody (not_wentWell_error e)) hrest

/-- A loop that succeeds does so with its last attempt. -/
theorem attempts_last {s₀ t : Scene} {a : α}
    (hrun : (attempts s operation again body rounds attempt delay).Runs R s₀ (.ok (.ok a)) t) :
    ∃ n m, (body n).Runs R m (.ok (.ok a)) t := by
  obtain ⟨n, m, -, h⟩ := attempts_ok (J := fun _ => True) (fun _ _ _ _ => trivial)
    (fun _ _ _ _ _ _ _ => trivial) (fun _ _ _ _ _ _ _ => trivial) trivial hrun
  exact ⟨n, m, h⟩

end Runs

/-! ## Loops that try again after conflicts -/

variable {body : Nat → Script (Except Error α)}

theorem onConflict_asks {P : Request → Prop} (hP : ∀ {r}, r.Idle → P r)
    (H : ∀ n, (body n).Asks P) : (onConflict horizon s operation body).Asks P :=
  (attempts_asks hP H).bind fun _ => trivial

variable {R : Scene → Scene → Prop} {J : Scene → Prop} [IsPreorder Scene R]

theorem onConflict_keeps (hR : Stable R J)
    (hidle : ∀ ⦃s r answer stores⦄ (h : s.Answers r answer stores), r.Idle → J s → J (s.after h))
    (H : ∀ n, (body n).Keeps R J) : (onConflict horizon s operation body).Keeps R J :=
  Keeps.bind (attempts_keeps hR hidle H) fun _ => .done hR _

theorem onConflict_fails (hR : Stable R J)
    (hidle : ∀ ⦃s r answer stores⦄ (h : s.Answers r answer stores), r.Idle → J s → J (s.after h))
    (H : ∀ n, (body n).KeepsFailing R J) :
    (onConflict horizon s operation body).KeepsFailing R J := by
  intro s₀ result t hs hrun hresult
  rcases hrun.bind with ⟨why, -, hrun⟩ | ⟨answer, m, hrun, hresult', hm⟩
  · exact attempts_fails hR hidle H hs hrun (not_wentWell_stop why)
  · refine hR hm (attempts_fails hR hidle H hs hrun ?_)
    rintro ⟨a, ha⟩
    cases ha
    exact hresult ⟨a, hresult'⟩

theorem onConflict_ok (hR : Stable R J)
    (hidle : ∀ ⦃s r answer stores⦄ (h : s.Answers r answer stores), r.Idle → J s → J (s.after h))
    (H : ∀ n, (body n).KeepsFailing R J)
    {s₀ t : Scene} {a : α} (hs : J s₀)
    (hrun : (onConflict horizon s operation body).Runs R s₀ (.ok (.ok a)) t) :
    ∃ n m, J m ∧ (body n).Runs R m (.ok (.ok a)) t := by
  obtain ⟨answer, m, hrun, hmap, hm⟩ := hrun.bind_ok
  cases answer with
  | error e => cases hmap
  | ok b =>
    cases hmap
    exact attempts_ok hR hidle H hs (hrun.after hm)

theorem onConflict_last {s₀ t : Scene} {a : α}
    (hrun : (onConflict horizon s operation body).Runs R s₀ (.ok (.ok a)) t) :
    ∃ n m, (body n).Runs R m (.ok (.ok a)) t := by
  obtain ⟨n, m, -, h⟩ := onConflict_ok (J := fun _ => True) (fun _ _ _ _ => trivial)
    (fun _ _ _ _ _ _ _ => trivial) (fun _ _ _ _ _ _ _ => trivial) trivial hrun
  exact ⟨n, m, h⟩

end Retry

end TrustAnchor
