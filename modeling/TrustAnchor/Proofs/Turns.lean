import TrustAnchor.Proofs.Sleeps
import TrustAnchor.Proofs.Steps

/-! Scripts that come to an end by themselves come to an end side by side too, if they sleep only so
often. -/

namespace TrustAnchor.Script

variable {α β : Type} {b b' : Nat} {p : Script α} {f : α → Script β}

/-- The script is never given up as unfinished, and sleeps no more often than that. -/
def Ends : Script α → Nat → Prop
  | .done _, _ => True
  | .stop why, _ => why ≠ .unfinished
  | .ask (.sleep _) next, b => 0 < b ∧ ∀ answer, (next answer).Ends (b - 1)
  | .ask _ next, b => ∀ answer, (next answer).Ends b

namespace Ends

/-- It does not sleep more often, and does not end unfinished. -/
theorem iff_sleeps : p.Ends b ↔ p.Sleeps (· ≠ .error .unfinished) b := by
  induction p generalizing b with
  | done a => exact ⟨fun _ => nofun, fun _ => trivial⟩
  | stop why => exact ⟨fun H h => H (Except.error.inj h), fun H h => H (congrArg Except.error h)⟩
  | ask r next ih =>
    cases r with
    | sleep d => exact and_congr_right fun _ => forall_congr' fun _ => ih _
    | _ => exact forall_congr' fun _ => ih _

theorem bind (H : p.Ends b) (K : ∀ a, (f a).Ends b') : (p >>= f).Ends (b + b') := by
  rw [iff_sleeps] at H ⊢
  refine H.bind (fun why hwhy h => ?_) fun a => iff_sleeps.1 (K a)
  exact hwhy (congrArg Except.error (Except.error.inj h))

theorem bind_zero (H : p.Ends 0) (K : ∀ a, (f a).Ends b) : (p >>= f).Ends b := by
  have hends := H.bind K
  rwa [Nat.zero_add] at hends

end Ends

/-- Scripts side by side that sleep less often than is allowed for come to an end. -/
theorem together_finishes {rounds : Nat} {ps : List (Script α)} (h : b < 2 * rounds)
    (H : ∀ p ∈ ps, p.Ends b) : (together rounds ps).Finishes fun _ => True :=
  (takeTurns_start h fun p hp => Ends.iff_sleeps.1 (H p hp)).bind fun _ hfinal =>
    collect_finishes hfinal

end TrustAnchor.Script

namespace TrustAnchor.Retry

open Script

variable {α ε : Type} {s : Schedule} {operation : String} {again : ε → Bool}
  {body : Nat → Script (Except ε α)} {rounds attempt horizon : Nat} {delay : Duration}

section Waits

variable {β : Type} {W : Except Stop β → Prop} {b : Nat}

private theorem request_sleeps {r : Request} {f : r.Answer → Script β}
    (hW : ∀ text, W (.error (.panicked text))) (hr : r.Awake) (H : ∀ a, (f a).Sleeps W b) :
    (Script.request r >>= f).Sleeps W b := by
  cases r with
  | sleep d => exact hr.elim
  | _ =>
    intro answer
    cases answer with
    | ok a => exact H a
    | error text => exact hW text

private theorem checked_sleeps {d : Except Duration.ConversionFault Duration}
    {f : Duration → Script β} (hW : ∀ text, W (.error (.panicked text)))
    (H : ∀ d, (f d).Sleeps W b) : (checked d >>= f).Sleeps W b := by
  cases d with
  | ok d => exact H d
  | error fault => exact hW _

/-- Between two attempts a loop sleeps once. -/
private theorem wait_sleeps {operation : String} {f : Duration → Script β} {attempt : Nat}
    {s : Schedule} {delay : Duration} (hW : ∀ text, W (.error (.panicked text)))
    (H : ∀ d, (f d).Sleeps W b) : Script.Sleeps W (do
      let u ← Script.request .chance
      let pause ← checked (Schedule.pause delay u)
      Script.request (.report ⟨operation, attempt, some pause⟩)
      Script.request (.sleep pause)
      let delay ← checked (s.nextDelay delay)
      f delay) (b + 1) := by
  refine request_sleeps hW trivial fun u => checked_sleeps hW fun pause =>
    request_sleeps hW trivial fun _ => ⟨Nat.succ_pos b, fun answer => ?_⟩
  cases answer with
  | ok => exact checked_sleeps hW H
  | error text => exact hW text

end Waits

/-- A loop with an end sleeps once between two attempts, and gives up by itself. -/
theorem attempts_ends (hbody : ∀ n, (body n).Ends 0) (h : rounds + 1 + attempt = s.maxAttempts) :
    (attempts s operation again body (rounds + 1) attempt delay).Ends rounds := by
  have hattempts : s.maxAttempts ≠ 0 := by omega
  induction rounds generalizing attempt delay with
  | zero =>
    refine (hbody attempt).bind_zero fun result => ?_
    cases result with
    | ok a => trivial
    | error e =>
      dsimp only
      split
      · trivial
      · rw [if_pos ⟨hattempts, by omega⟩, Ends.iff_sleeps]
        exact request_sleeps nofun trivial fun _ => nofun
  | succ rounds ih =>
    refine (hbody attempt).bind_zero fun result => ?_
    cases result with
    | ok a => trivial
    | error e =>
      dsimp only
      split
      · trivial
      · rw [if_neg (by omega), Ends.iff_sleeps]
        exact wait_sleeps nofun fun delay => Ends.iff_sleeps.1 (ih (by omega))

/-- A loop sleeps once at most for each attempt that is followed. -/
theorem attempts_sleeps (hbody : ∀ n, (body n).Sleeps (fun _ => True) 0) :
    (attempts s operation again body rounds attempt delay).Sleeps (fun _ => True) rounds := by
  induction rounds generalizing attempt delay with
  | zero => trivial
  | succ rounds ih =>
    rw [attempts, ← Nat.zero_add (rounds + 1)]
    refine (hbody attempt).bind (fun _ _ => trivial) fun result => ?_
    cases result with
    | ok a => trivial
    | error e =>
      dsimp only
      split
      · trivial
      · split
        · exact request_sleeps (fun _ => trivial) trivial fun _ => trivial
        · exact wait_sleeps (fun _ => trivial) fun delay => ih

variable {body : Nat → Script (Except Error α)}

theorem onConflict_sleeps (hbody : ∀ n, (body n).Sleeps (fun _ => True) 0) :
    (onConflict horizon s operation body).Sleeps (fun _ => True) (Retry.rounds horizon s) := by
  rw [← Nat.add_zero (Retry.rounds horizon s)]
  exact (attempts_sleeps hbody).bind (fun _ _ => trivial) fun _ => trivial

theorem onConflict_ends (hbody : ∀ n, (body n).Ends 0) (h : s.maxAttempts ≠ 0) :
    (onConflict horizon s operation body).Ends (s.maxAttempts - 1) := by
  have hrounds : Retry.rounds horizon s = s.maxAttempts - 1 + 1 := by
    rw [Retry.rounds, if_neg h]
    omega
  have hends : (attempts s operation Error.isConflict body (s.maxAttempts - 1 + 1) 0
      s.initialDelay).Ends (s.maxAttempts - 1) := attempts_ends hbody (by omega)
  rw [onConflict, Retry.when, hrounds]
  show Script.Ends _ (s.maxAttempts - 1 + 0)
  exact hends.bind fun _ => trivial

end TrustAnchor.Retry

namespace TrustAnchor

open Script

/-- An attempt never sleeps. -/
theorem Amendment.attempt_ends {k : Kind} {name : String} {β : Type} (A : Amendment k name β) :
    A.attempt.run.Ends 0 := by
  intro answer
  match answer with
  | .error text => exact nofun
  | .ok (.error e) => trivial
  | .ok (.ok found) =>
    show (act found (A.plan found)).run.Ends 0
    cases A.plan found with
    | finish result => trivial
    | write x b =>
      have hput : (put k found x).run.Ends 0 := by
        cases found with
        | none =>
          intro answer
          cases answer with
          | ok => trivial
          | error text => exact nofun
        | some z =>
          intro answer
          cases answer with
          | ok => trivial
          | error text => exact nofun
      refine hput.bind_zero fun result => ?_
      cases result with
      | ok => trivial
      | error => trivial

/-- Where attempts come to an end, so does bringing the bundle to the targets, whatever the answers
are. -/
theorem Rotation.syncs_finish {horizon : Nat} {bundle : Bytes} {schedule : Schedule}
    {targets : List Target} (h : schedule.maxAttempts ≠ 0) :
    (together (Retry.rounds horizon schedule)
      (targets.map fun t => (t.sync horizon bundle schedule).run)).Finishes fun _ => True := by
  have hrounds : Retry.rounds horizon schedule = schedule.maxAttempts := if_neg h
  refine together_finishes (b := schedule.maxAttempts - 1) (by omega) fun p hp => ?_
  obtain ⟨t, -, rfl⟩ := List.mem_map.1 hp
  rw [Target.sync_eq]
  exact Retry.onConflict_ends (fun _ => Amendment.attempt_ends _) h

end TrustAnchor
