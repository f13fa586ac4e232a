import TrustAnchor.Proofs.Ledger
import TrustAnchor.Proofs.Loop

/-! What a script asks and what it hears, in order, and how this falls into attempts where a script
tries again. -/

namespace TrustAnchor

/-- A request and the answer to it. -/
structure Exchange where
  request : Request
  answer : Except String request.Answer

namespace Exchange

/-- One of those between two attempts. -/
def Idle (x : Exchange) : Prop := x.request.Idle

/-- A write that went well. -/
def Wrote (x : Exchange) : Prop := x.request.Wrote x.answer

/-- The surroundings could give the answer. -/
def Possible (x : Exchange) : Prop := x.request.Possible x.answer

end Exchange

namespace Script

variable {α β ε : Type} {p : Script α} {f : α → Script β} {es : List Exchange}

/-- A script comes to a result by the exchanges of a list, the first one first. -/
def Trace : Script α → List Exchange → Except Stop α → Prop
  | .done a, es, result => es = [] ∧ result = .ok a
  | .stop why, es, result => es = [] ∧ result = .error why
  | .ask r next, es, result =>
    ∃ answer rest, es = ⟨r, answer⟩ :: rest ∧ (next answer).Trace rest result

namespace Trace

theorem bind {result : Except Stop β} (H : (p >>= f).Trace es result) :
    (∃ why, result = .error why ∧ p.Trace es (.error why)) ∨
      ∃ a first rest, es = first ++ rest ∧ p.Trace first (.ok a) ∧ (f a).Trace rest result := by
  induction p generalizing es with
  | done a => exact .inr ⟨a, [], es, rfl, ⟨rfl, rfl⟩, H⟩
  | stop why => exact .inl ⟨why, H.2, H.1, rfl⟩
  | ask r next ih =>
    obtain ⟨answer, later, rfl, H⟩ := H
    rcases ih answer H with ⟨why, hwhy, H⟩ | ⟨a, first, rest, rfl, H, K⟩
    · exact .inl ⟨why, hwhy, answer, later, rfl, H⟩
    · exact .inr ⟨a, ⟨r, answer⟩ :: first, rest, rfl, ⟨answer, first, rfl, H⟩, K⟩

/-- What becomes of a result does not change what was asked. -/
theorem map {g : α → β} {result : Except Stop β} (H : (p >>= fun a => .done (g a)).Trace es result) :
    ∃ inner, p.Trace es inner ∧ result = inner.map g := by
  rcases H.bind with ⟨why, rfl, hp⟩ | ⟨a, first, rest, rfl, hp, rfl, rfl⟩
  · exact ⟨.error why, hp, rfl⟩
  · rw [List.append_nil]
    exact ⟨.ok a, hp, rfl⟩

theorem mapError {δ : Type} {g : ε → δ} {p : Script (Except ε α)}
    {result : Except Stop (Except δ α)}
    (H : (p >>= fun answer => .done (answer.mapError g)).Trace es result) :
    ∃ inner, p.Trace es inner ∧ result = inner.map (Except.mapError g) := H.map

theorem attempt {x : Attempt α} {g : α → Attempt β} {result : Except Stop (Except Error β)}
    (H : (x >>= g).run.Trace es result) :
    (¬ WentWell result ∧ ∃ inner, x.run.Trace es inner) ∨
      ∃ a first rest, es = first ++ rest ∧ x.run.Trace first (.ok (.ok a)) ∧
        (g a).run.Trace rest result := by
  rw [ExceptT.run_bind] at H
  rcases H.bind with ⟨why, rfl, hx⟩ | ⟨answer, first, rest, rfl, hx, H⟩
  · exact .inl ⟨not_wentWell_stop why, _, hx⟩
  · cases answer with
    | error e =>
      obtain ⟨rfl, rfl⟩ := H
      rw [List.append_nil]
      exact .inl ⟨not_wentWell_error e, _, hx⟩
    | ok a => exact .inr ⟨a, first, rest, rfl, hx, H⟩

theorem attempt_ok {x : Attempt α} {g : α → Attempt β} {b : β}
    (H : (x >>= g).run.Trace es (.ok (.ok b))) :
    ∃ a first rest, es = first ++ rest ∧ x.run.Trace first (.ok (.ok a)) ∧
      (g a).run.Trace rest (.ok (.ok b)) := by
  rcases H.attempt with ⟨hresult, -⟩ | H
  · exact absurd ⟨b, rfl⟩ hresult
  · exact H

end Trace

end Script

/-- The script's own requests, with their answers, the newest first. -/
def History.exchanges : History → List Exchange
  | [] => []
  | .deed _ _ :: past => exchanges past
  | .request _ r answer :: past => ⟨r, answer⟩ :: exchanges past

namespace Scene

theorem exchanges_stable {es : List Exchange} :
    Script.Stable Outside fun s => s.past.exchanges = es :=
  fun _ _ hout hs => hout.keeps (J := fun s => s.past.exchanges = es) (fun _ _ _ hs => hs) hs

end Scene

/-- A run goes by its exchanges, and leaves them behind. -/
theorem Script.Runs.trace {α : Type} {p : Script α} {s t : Scene} {result : Except Stop α}
    (H : p.Runs Scene.Outside s result t) :
    ∃ es, p.Trace es result ∧ (∀ x ∈ es, x.Possible) ∧
      t.past.exchanges = es.reverse ++ s.past.exchanges := by
  induction p generalizing s with
  | done a => exact ⟨[], ⟨rfl, H.1⟩, by simp, Scene.exchanges_stable H.2 rfl⟩
  | stop why => exact ⟨[], ⟨rfl, H.1⟩, by simp, Scene.exchanges_stable H.2 rfl⟩
  | ask r next ih =>
    obtain ⟨m, answer, stores, hm, hanswer, H⟩ := H
    obtain ⟨es, htrace, hpossible, hpast⟩ := ih answer H
    refine ⟨⟨r, answer⟩ :: es, ⟨answer, es, rfl, htrace⟩, ?_, ?_⟩
    · exact List.forall_mem_cons.2 ⟨hanswer.possible, hpossible⟩
    · rw [hpast, List.reverse_cons, List.append_assoc, ← Scene.exchanges_stable hm rfl]
      rfl

/-- One attempt: what it asked and heard, and its result. -/
structure Trial (ε α : Type) where
  exchanges : List Exchange
  result : Except Stop (Except ε α)

namespace Retry

open Script

variable {α ε : Type}

/-- How a loop goes from the attempt of a number on: the attempts that it makes, all exchanges, and
the result. -/
inductive Tries (s : Schedule) (again : ε → Bool) (body : Nat → Script (Except ε α)) :
    Nat → List (Trial ε α) → List Exchange → Except Stop (Except ε α) → Prop
  /-- It breaks off before another attempt. -/
  | cut {n why} : Tries s again body n [] [] (.error why)
  /-- The attempt is the last one, because another would not mend its result. -/
  | ended {n es result} : (body n).Trace es result →
    (∀ e, result = .ok (.error e) → again e = false) →
    Tries s again body n [⟨es, result⟩] es result
  /-- The attempt is the last one that is allowed. -/
  | spent {n es e idle result} : (body n).Trace es (.ok (.error e)) → again e = true →
    s.maxAttempts ≠ 0 → s.maxAttempts ≤ n + 1 → (∀ x ∈ idle, x.Idle) →
    (result = .ok (.error e) ∨ ∃ why, result = .error why) →
    Tries s again body n [⟨es, .ok (.error e)⟩] (es ++ idle) result
  /-- After a pause the loop goes on. -/
  | again {n es e idle trials rest result} : (body n).Trace es (.ok (.error e)) → again e = true →
    (s.maxAttempts = 0 ∨ n + 1 < s.maxAttempts) → (∀ x ∈ idle, x.Idle) →
    Tries s again body (n + 1) trials rest result →
    Tries s again body n (⟨es, .ok (.error e)⟩ :: trials) (es ++ idle ++ rest) result

/-! ## A loop falls into its attempts -/

variable {s : Schedule} {operation : String} {again : ε → Bool}
  {body : Nat → Script (Except ε α)} {horizon rounds n : Nat} {delay : Duration}
  {es : List Exchange} {result : Except Stop (Except ε α)} {trials : List (Trial ε α)}

/-- Some idle exchanges come first; then the script breaks off or goes on as `D` says. -/
def Pauses (D : List Exchange → Except Stop α → Prop) (p : Script α) : Prop :=
  ∀ ⦃es result⦄, p.Trace es result → ∃ idle rest, es = idle ++ rest ∧ (∀ x ∈ idle, x.Idle) ∧
    (D rest result ∨ rest = [] ∧ ∃ why, result = .error why)

namespace Pauses

variable {D : List Exchange → Except Stop α → Prop} {p : Script α}
  {result : Except Stop α}

theorem trace (htrace : p.Trace es result) (H : Pauses D p) :
    ∃ idle rest, es = idle ++ rest ∧ (∀ x ∈ idle, x.Idle) ∧
      (D rest result ∨ rest = [] ∧ ∃ why, result = .error why) := H htrace

theorem here (H : ∀ ⦃es result⦄, p.Trace es result → D es result) : Pauses D p :=
  fun es _ htrace => ⟨[], es, rfl, by simp, .inl (H htrace)⟩

theorem request {r : Request} {f : r.Answer → Script α} (hr : r.Idle)
    (H : ∀ a, Pauses D (f a)) : Pauses D (Script.request r >>= f) := by
  rintro es result ⟨answer, rest, rfl, htrace⟩
  cases answer with
  | error text =>
    obtain ⟨rfl, rfl⟩ := htrace
    exact ⟨[_], [], rfl, List.forall_mem_singleton.2 hr, .inr ⟨rfl, _, rfl⟩⟩
  | ok a =>
    obtain ⟨idle, later, rfl, hidle, hend⟩ := H a htrace
    exact ⟨_ :: idle, later, rfl, List.forall_mem_cons.2 ⟨hr, hidle⟩, hend⟩

theorem checked {d : Except Duration.ConversionFault Duration} {f : Duration → Script α}
    (H : ∀ d, Pauses D (f d)) : Pauses D (Retry.checked d >>= f) := by
  cases d with
  | ok d => exact H d
  | error fault =>
    rintro es result ⟨rfl, rfl⟩
    exact ⟨[], [], rfl, by simp, .inr ⟨rfl, _, rfl⟩⟩

end Pauses

theorem attempts_tries (H : (attempts s operation again body rounds n delay).Trace es result) :
    ∃ trials, Tries s again body n trials es result := by
  induction rounds generalizing n delay es result with
  | zero =>
    obtain ⟨rfl, rfl⟩ := H
    exact ⟨[], .cut⟩
  | succ rounds ih =>
    rw [attempts] at H
    rcases H.bind with ⟨why, rfl, hbody⟩ | ⟨answer, first, rest, rfl, hbody, H⟩
    · exact ⟨_, .ended hbody fun _ he => by cases he⟩
    cases answer with
    | ok a =>
      obtain ⟨rfl, rfl⟩ := H
      rw [List.append_nil]
      exact ⟨_, .ended hbody fun _ he => by cases he⟩
    | error e =>
      dsimp only at H
      split at H
      · rename_i hagain
        obtain ⟨rfl, rfl⟩ := H
        rw [List.append_nil]
        refine ⟨_, .ended hbody fun e' he => ?_⟩
        cases he
        simpa using hagain
      · rename_i hagain
        have hagain : again e = true := by simpa using hagain
        split at H
        · rename_i hmax
          -- The last attempt is only reported.
          obtain ⟨idle, later, rfl, hidle, ⟨rfl, rfl⟩ | ⟨rfl, why, rfl⟩⟩ :=
            Pauses.trace H (.request trivial fun _ => .here fun _ _ h => h)
          · rw [List.append_nil]
            exact ⟨_, .spent hbody hagain hmax.1 hmax.2 hidle (.inl rfl)⟩
          · rw [List.append_nil]
            exact ⟨_, .spent hbody hagain hmax.1 hmax.2 hidle (.inr ⟨why, rfl⟩)⟩
        · rename_i hmax
          obtain ⟨idle, later, rfl, hidle, hlater⟩ :=
            Pauses.trace H (.request trivial fun u => .checked fun pause => .request trivial fun _ =>
              .request trivial fun _ => .checked fun delay => .here fun _ _ h => ih h)
          have hmore : s.maxAttempts = 0 ∨ n + 1 < s.maxAttempts := by omega
          rw [← List.append_assoc]
          rcases hlater with ⟨trials, hlater⟩ | ⟨rfl, why, rfl⟩
          · exact ⟨_, .again hbody hagain hmore hidle hlater⟩
          · exact ⟨_, .again hbody hagain hmore hidle .cut⟩

namespace Tries

/-- A loop with an end makes no more attempts than it is allowed. -/
theorem length_le (H : Tries s again body n trials es result) (hn : n < s.maxAttempts) :
    n + trials.length ≤ s.maxAttempts := by
  induction H with
  | cut => exact hn.le
  | ended | spent => exact hn
  | @again n _ _ _ trials _ _ _ _ hmore _ _ ih =>
    rw [List.length_cons]
    by_cases hlast : n + 1 < s.maxAttempts
    · have := ih hlast
      omega
    · omega

end Tries

variable {body : Nat → Script (Except Error α)} {es : List Exchange}
  {result : Except Stop (Except Error α)}

/-- The attempts of a loop that tries again after conflicts. Only its last error is another one than
that of an attempt. -/
theorem onConflict_tries (H : (onConflict horizon s operation body).Trace es result) :
    ∃ trials inner, Tries s Error.isConflict body 0 trials es inner ∧
      result = inner.map (Except.mapError (exhausted s operation)) := by
  obtain ⟨inner, H, hresult⟩ := H.mapError
  obtain ⟨trials, htries⟩ := attempts_tries H
  exact ⟨trials, inner, htries, hresult⟩

end Retry

end TrustAnchor
