import TrustAnchor.Retry.Schedule
import TrustAnchor.Script.Basic

/-! Trying again. The operation is tried until it succeeds, fails for a reason that another attempt
would not mend, or has used up its attempts. A schedule without end is followed as far as a horizon:
what is true for every horizon is true of the loop itself. -/

namespace TrustAnchor.Retry

variable {α ε : Type}

/-- How many attempts are followed at most. -/
def rounds (horizon : Nat) (s : Schedule) : Nat :=
  if s.maxAttempts = 0 then horizon else s.maxAttempts

/-- A number computed from doubles, or a stop if it is no span of time. -/
def checked (d : Except Duration.ConversionFault Duration) : Script Duration :=
  match d with
  | .ok d => .done d
  | .error fault => .stop (.panicked fault.message)

/-- The attempts from number `attempt` on, counted from zero; the next wait is made of `delay`. -/
def attempts (s : Schedule) (operation : String) (again : ε → Bool)
    (body : Nat → Script (Except ε α)) :
    (rounds : Nat) → (attempt : Nat) → (delay : Duration) → Script (Except ε α)
  | 0, _, _ => .stop .unfinished
  | rounds + 1, attempt, delay => do
    match ← body attempt with
    | .ok a => return .ok a
    | .error e =>
      if !again e then return .error e
      else if s.maxAttempts ≠ 0 ∧ s.maxAttempts ≤ attempt + 1 then
        Script.request (.report ⟨operation, attempt + 1, none⟩)
        return .error e
      else
        let u ← Script.request .chance
        let pause ← checked (Schedule.pause delay u)
        Script.request (.report ⟨operation, attempt + 1, some pause⟩)
        Script.request (.sleep pause)
        let delay ← checked (s.nextDelay delay)
        attempts s operation again body rounds (attempt + 1) delay

/-- Tries again after the errors for which `again` holds. The body is told how many attempts were
made before. -/
def when (horizon : Nat) (s : Schedule) (operation : String) (again : ε → Bool)
    (body : Nat → Script (Except ε α)) : Script (Except ε α) :=
  attempts s operation again body (rounds horizon s) 0 s.initialDelay

/-- Tries again after every error. -/
def always (horizon : Nat) (s : Schedule) (operation : String)
    (body : Nat → Script (Except ε α)) : Script (Except ε α) :=
  when horizon s operation (fun _ => true) body

/-- The error of a loop that tries again after conflicts: a conflict can only be the last of all
attempts, and is wrapped. -/
def exhausted (s : Schedule) (operation : String) (e : Error) : Error :=
  if e.isConflict then .conflictExhausted operation s.maxAttempts e else e

/-- Tries again after version conflicts. The body has to read the latest version each time. -/
def onConflict (horizon : Nat) (s : Schedule) (operation : String)
    (body : Nat → Script (Except Error α)) : Script (Except Error α) := do
  return (← when horizon s operation Error.isConflict body).mapError (exhausted s operation)

end TrustAnchor.Retry
