import TrustAnchor.Proofs.Trials
import Mathlib.Algebra.GroupWithZero.Nat

/-! What a loop does with an operation that is given by its results. It makes its calls one after the
other, waits once between any two of them and never after the last one; how many calls it makes and
what it comes to is decided by the results and by the number of attempts alone. -/

namespace TrustAnchor

/-- The handler gives the answers of a list of exchanges, in this order, and comes from one state to
another. -/
def Handler.Replies {σ : Type} (h : Handler σ) : List Exchange → σ → σ → Prop
  | [], s, t => t = s
  | x :: es, s, t => (h x.request s).1 = x.answer ∧ h.Replies es (h x.request s).2 t

namespace Exchange

def sleeps : Exchange → Bool
  | ⟨.sleep _, _⟩ => true
  | _ => false

/-- The number of the attempt that is reported. -/
def counter? : Exchange → Option Nat
  | ⟨.report setback, _⟩ => some setback.attempt
  | _ => none

end Exchange

namespace Script

variable {α β : Type} {p : Script α} {f : α → Script β} {es rest : List Exchange}

/-- Where the exchanges of a list are answered as they are in it, the script makes these and no
others, and comes to the result. -/
structure Performs (p : Script α) (es : List Exchange) (result : Except Stop α) : Prop where
  trace : p.Trace es result
  run : ∀ {σ : Type} {h : Handler σ} {s t : σ}, h.Replies es s t → p.run h s = (result, t)

namespace Trace

theorem seq {a : α} {result : Except Stop β} (H : p.Trace es (.ok a))
    (K : (f a).Trace rest result) : (p >>= f).Trace (es ++ rest) result := by
  induction p generalizing es with
  | done b =>
    obtain ⟨rfl, hb⟩ := H
    cases hb
    exact K
  | stop why => cases H.2
  | ask r next ih =>
    obtain ⟨answer, later, rfl, H⟩ := H
    exact ⟨answer, later ++ rest, rfl, ih answer H⟩

theorem request {r : Request} {f : r.Answer → Script β} {a : r.Answer} {result : Except Stop β}
    (H : (f a).Trace rest result) :
    (Script.request r >>= f).Trace (⟨r, .ok a⟩ :: rest) result :=
  ⟨.ok a, rest, rfl, H⟩

theorem mapped {result : Except Stop α} (H : p.Trace es result) (g : α → β) :
    (p >>= fun a => .done (g a)).Trace es (result.map g) := by
  induction p generalizing es with
  | done a =>
    obtain ⟨rfl, rfl⟩ := H
    exact ⟨rfl, rfl⟩
  | stop why =>
    obtain ⟨rfl, rfl⟩ := H
    exact ⟨rfl, rfl⟩
  | ask r next ih =>
    obtain ⟨answer, later, rfl, H⟩ := H
    exact ⟨answer, later, rfl, ih answer H⟩

theorem run {σ : Type} {h : Handler σ} {s t : σ} {result : Except Stop α} (H : p.Trace es result)
    (K : h.Replies es s t) : p.run h s = (result, t) := by
  induction p generalizing es s with
  | done a =>
    obtain ⟨rfl, rfl⟩ := H
    rw [run_done, show t = s from K]
  | stop why =>
    obtain ⟨rfl, rfl⟩ := H
    rw [run_stop, show t = s from K]
  | ask r next ih =>
    obtain ⟨answer, later, rfl, H⟩ := H
    obtain ⟨hanswer, K⟩ := K
    rw [run_ask, show (h r s).1 = answer from hanswer]
    exact ih answer H K

theorem performs {result : Except Stop α} (H : p.Trace es result) : p.Performs es result :=
  ⟨H, fun K => H.run K⟩

end Trace

end Script

namespace Retry

/-- The numbers that are drawn after failed calls, and the pauses that come of them. -/
structure Waits where
  chance : Nat → Binary64
  pause : Nat → Duration

/-- What is exchanged after the call of a number, counted from zero, if another call is to follow. -/
def Waits.exchanges (w : Waits) (operation : String) (n : Nat) : List Exchange :=
  [⟨.chance, .ok (w.chance n)⟩, ⟨.report ⟨operation, n + 1, some (w.pause n)⟩, .ok ()⟩,
    ⟨.sleep (w.pause n), .ok ()⟩]

/-- The exchange in which a loop reports that it gives up after so many attempts. -/
def gaveUp (operation : String) (attempts : Nat) : Exchange :=
  ⟨.report ⟨operation, attempts, none⟩, .ok ()⟩

end Retry

namespace Schedule

open Retry (Waits)

/-- The delay that a number of waits have led to. -/
def delay? (s : Schedule) : Nat → Except Duration.ConversionFault Duration
  | 0 => .ok s.initialDelay
  | n + 1 => s.delay? n >>= s.nextDelay

/-- Of so many waits, each can be computed, and so can the delay after it. -/
def Paces (s : Schedule) (w : Waits) (n : Nat) : Prop :=
  ∀ i < n, ∃ delay next, s.delay? i = .ok delay ∧ pause delay (w.chance i) = .ok (w.pause i) ∧
    s.nextDelay delay = .ok next

theorem Paces.delay {s : Schedule} {w : Waits} {n : Nat} (H : s.Paces w n) :
    ∃ delay, s.delay? n = .ok delay := by
  cases n with
  | zero => exact ⟨s.initialDelay, rfl⟩
  | succ n =>
    obtain ⟨delay, next, hdelay, -, hnext⟩ := H n (Nat.lt_succ_self n)
    refine ⟨next, ?_⟩
    rw [delay?, hdelay]
    exact hnext

end Schedule

namespace Retry

open Script

variable {α ε : Type}

/-- Another call might mend the result. -/
def mendable (again : ε → Bool) : Except ε α → Bool
  | .ok _ => false
  | .error e => again e

/-- An operation that is given by its results: what each of its calls asks and hears, and what it
comes to. -/
structure Calls (body : Nat → Script (Except ε α)) where
  exchanges : Nat → List Exchange
  result : Nat → Except ε α
  trace : ∀ n, (body n).Trace (exchanges n) (.ok (result n))

variable {s : Schedule} {operation : String} {again : ε → Bool}
  {body : Nat → Script (Except ε α)} {w : Waits} {horizon rounds n : Nat} {delay : Duration}
  {es rest : List Exchange}

namespace Calls

/-- The first calls, with a wait after each of them. -/
def waiting (c : Calls body) (w : Waits) (operation : String) (n : Nat) : List Exchange :=
  (List.range n).flatMap fun i => c.exchanges i ++ w.exchanges operation i

/-- The calls up to that of a number, with a wait between any two of them. -/
def course (c : Calls body) (w : Waits) (operation : String) (n : Nat) : List Exchange :=
  c.waiting w operation n ++ c.exchanges n

theorem waiting_succ (c : Calls body) : c.waiting w operation (n + 1) =
    c.waiting w operation n ++ (c.exchanges n ++ w.exchanges operation n) := by
  rw [waiting, List.range_succ, List.flatMap_append, List.flatMap_singleton, waiting]

end Calls

/-! ## One attempt -/

section Attempt

variable {r : Except ε α} {e : ε}

theorem attempts_settled (hbody : (body n).Trace es (.ok r)) (h : mendable again r = false) :
    (attempts s operation again body (rounds + 1) n delay).Trace es (.ok r) := by
  rw [attempts, ← List.append_nil es]
  refine hbody.seq ?_
  cases r with
  | ok a => exact ⟨rfl, rfl⟩
  | error e =>
    dsimp only
    rw [if_pos (by rw [show again e = false from h]; rfl)]
    exact ⟨rfl, rfl⟩

theorem attempts_spent (hbody : (body n).Trace es (.ok (.error e))) (h : again e = true)
    (hlimit : s.maxAttempts = n + 1) :
    (attempts s operation again body (rounds + 1) n delay).Trace
      (es ++ [gaveUp operation (n + 1)]) (.ok (.error e)) := by
  rw [attempts, hlimit]
  refine hbody.seq ?_
  dsimp only
  rw [h, if_neg (by decide), if_pos ⟨Nat.succ_ne_zero n, Nat.le_refl _⟩]
  exact .request ⟨rfl, rfl⟩

theorem attempts_again {next : Duration} {result : Except Stop (Except ε α)}
    (hbody : (body n).Trace es (.ok (.error e))) (h : again e = true)
    (hmore : s.maxAttempts = 0 ∨ n + 1 < s.maxAttempts)
    (hpause : Schedule.pause delay (w.chance n) = .ok (w.pause n))
    (hnext : s.nextDelay delay = .ok next)
    (hrest : (attempts s operation again body rounds (n + 1) next).Trace rest result) :
    (attempts s operation again body (rounds + 1) n delay).Trace
      (es ++ (w.exchanges operation n ++ rest)) result := by
  rw [attempts]
  refine hbody.seq ?_
  dsimp only
  rw [h, if_neg (by decide), if_neg (by omega)]
  refine .request ?_
  rw [hpause]
  refine .request (.request ?_)
  rw [hnext]
  exact hrest

end Attempt

/-! ## The whole loop -/

variable {c : Calls body} {result : Except Stop (Except ε α)}

/-- A loop whose first calls can all be mended goes on after them and their waits. -/
theorem attempts_waiting (hmend : ∀ i < n, mendable again (c.result i))
    (hmore : s.maxAttempts = 0 ∨ n < s.maxAttempts) (hpaces : s.Paces w n)
    (hdelay : s.delay? n = .ok delay)
    (hrest : (attempts s operation again body rounds n delay).Trace rest result) :
    (attempts s operation again body (n + rounds) 0 s.initialDelay).Trace
      (c.waiting w operation n ++ rest) result := by
  induction n generalizing rounds delay rest with
  | zero =>
    cases hdelay
    rw [Nat.zero_add]
    exact hrest
  | succ n ih =>
    obtain ⟨before, next, hbefore, hpause, hnext⟩ := hpaces n (Nat.lt_succ_self n)
    rw [Schedule.delay?, hbefore] at hdelay
    have hsame : s.nextDelay before = .ok delay := hdelay
    have hcall := c.trace n
    have hn := hmend n (Nat.lt_succ_self n)
    cases hresult : c.result n with
    | ok a =>
      rw [hresult] at hn
      cases hn
    | error e =>
      rw [hresult] at hn hcall
      have hstep := attempts_again hcall hn hmore hpause hsame hrest
      rw [c.waiting_succ, List.append_assoc, List.append_assoc, Nat.add_right_comm, Nat.add_assoc]
      refine ih (fun i hi => hmend i (Nat.lt_succ_of_lt hi)) (by omega) (fun i hi => ?_) hbefore hstep
      exact hpaces i (Nat.lt_succ_of_lt hi)

theorem when_settled (hmend : ∀ i < n, mendable again (c.result i))
    (hlast : mendable again (c.result n) = false) (hmore : s.maxAttempts = 0 ∨ n < s.maxAttempts)
    (hpaces : s.Paces w n) (hhorizon : s.maxAttempts = 0 → n < horizon) :
    (when horizon s operation again body).Trace (c.course w operation n) (.ok (c.result n)) := by
  obtain ⟨delay, hdelay⟩ := hpaces.delay
  obtain ⟨left, hleft⟩ : ∃ left, Retry.rounds horizon s = n + (left + 1) := by
    refine ⟨Retry.rounds horizon s - n - 1, ?_⟩
    have hrounds : n < Retry.rounds horizon s := by
      rw [Retry.rounds]
      split <;> omega
    omega
  rw [when, hleft]
  exact attempts_waiting hmend hmore hpaces hdelay (attempts_settled (c.trace n) hlast)

theorem when_spent {e : ε} (hlimit : s.maxAttempts = n + 1)
    (hmend : ∀ i < n + 1, mendable again (c.result i)) (hlast : c.result n = .error e)
    (hpaces : s.Paces w n) :
    (when horizon s operation again body).Trace
      (c.course w operation n ++ [gaveUp operation (n + 1)]) (.ok (.error e)) := by
  obtain ⟨delay, hdelay⟩ := hpaces.delay
  have hcall := c.trace n
  have hagain := hmend n (Nat.lt_succ_self n)
  rw [hlast] at hcall hagain
  have hrounds : Retry.rounds horizon s = n + 1 := by
    rw [Retry.rounds, if_neg (by omega), hlimit]
  rw [when, hrounds, Calls.course, List.append_assoc]
  refine attempts_waiting (fun i hi => hmend i (Nat.lt_succ_of_lt hi)) (by omega) hpaces hdelay ?_
  exact attempts_spent hcall hagain hlimit

/-- A loop without end that cannot settle is not followed further than asked for. -/
theorem when_endless (hlimit : s.maxAttempts = 0) (hmend : ∀ i, mendable again (c.result i))
    (hpaces : s.Paces w horizon) :
    (when horizon s operation again body).Trace (c.waiting w operation horizon)
      (.error .unfinished) := by
  obtain ⟨delay, hdelay⟩ := hpaces.delay
  have hrounds : Retry.rounds horizon s = horizon + 0 := if_pos hlimit
  rw [when, hrounds, ← List.append_nil (c.waiting w operation horizon)]
  exact attempts_waiting (fun i _ => hmend i) (.inl hlimit) hpaces hdelay ⟨rfl, rfl⟩

/-! ## What the results decide -/

namespace Calls

/-- A loop with the limit makes the calls up to that of a number and then comes to a result, whatever
its delays are and whatever numbers are drawn, if only the waits between these calls can be computed.
A loop without a limit has to be followed that far. -/
structure Leads (c : Calls body) (loop : Nat → Schedule → Script (Except ε α)) (limit : Nat)
    (operation : String) (n : Nat) (rest : List Exchange) (result : Except ε α) : Prop where
  performs : ∀ (s : Schedule) (w : Waits) (horizon : Nat), s.maxAttempts = limit → s.Paces w n →
    (limit = 0 → n < horizon) →
    (loop horizon s).Performs (c.course w operation n ++ rest) (.ok result)
  within : limit ≠ 0 → n < limit

theorem settled_leads {limit : Nat} (hmend : ∀ i < n, mendable again (c.result i))
    (hlast : mendable again (c.result n) = false) (hmore : limit = 0 ∨ n < limit) :
    c.Leads (fun horizon s => when horizon s operation again body) limit operation n []
      (c.result n) where
  performs s w horizon hlimit hpaces hhorizon := by
    subst hlimit
    rw [List.append_nil]
    exact (when_settled hmend hlast hmore hpaces hhorizon).performs
  within h := hmore.resolve_left h

theorem spent_leads {limit : Nat} (operation : String) (hlimit : limit ≠ 0)
    (hmend : ∀ i < limit, mendable again (c.result i)) : ∃ e, c.result (limit - 1) = .error e ∧
      c.Leads (fun horizon s => when horizon s operation again body) limit operation (limit - 1)
        [gaveUp operation limit] (.error e) := by
  obtain ⟨n, rfl⟩ := Nat.exists_eq_succ_of_ne_zero hlimit
  rw [Nat.succ_sub_one]
  have hn := hmend n (Nat.lt_succ_self n)
  cases hlast : c.result n with
  | ok a =>
    rw [hlast] at hn
    cases hn
  | error e =>
    refine ⟨e, rfl, fun s w horizon hlimit hpaces _ => ?_, fun _ => Nat.lt_succ_self n⟩
    exact (when_spent hlimit hmend hlast hpaces).performs

/-- Beside what the calls themselves do, the loop sleeps once for each call that is followed by
another one. -/
theorem countP_sleeps (c : Calls body) : (c.course w operation n).countP Exchange.sleeps =
    n + ((List.range (n + 1)).map fun i => (c.exchanges i).countP Exchange.sleeps).sum := by
  have hwaiting : (c.waiting w operation n).countP Exchange.sleeps =
      n + ((List.range n).map fun i => (c.exchanges i).countP Exchange.sleeps).sum := by
    induction n with
    | zero => rfl
    | succ n ih =>
      have hwait : (w.exchanges operation n).countP Exchange.sleeps = 1 := rfl
      rw [c.waiting_succ, List.countP_append, List.countP_append, ih, hwait, List.range_succ,
        List.map_append, List.sum_append, List.map_singleton, List.sum_singleton]
      omega
  rw [course, List.countP_append, hwaiting, List.range_succ, List.map_append, List.sum_append,
    List.map_singleton, List.sum_singleton, Nat.add_assoc]

/-- The loop counts its calls from one on. -/
theorem counters (c : Calls body) (hquiet : ∀ i, ∀ x ∈ c.exchanges i, x.counter? = none) :
    (c.course w operation n).filterMap Exchange.counter? = List.range' 1 n := by
  have hcall (i : Nat) : (c.exchanges i).filterMap Exchange.counter? = [] :=
    List.filterMap_eq_nil_iff.2 (hquiet i)
  have hwaiting : (c.waiting w operation n).filterMap Exchange.counter? = List.range' 1 n := by
    induction n with
    | zero => rfl
    | succ n ih =>
      have hwait : (w.exchanges operation n).filterMap Exchange.counter? = [n + 1] := rfl
      rw [c.waiting_succ, List.filterMap_append, List.filterMap_append, ih, hcall, hwait,
        List.nil_append, List.range'_1_concat, Nat.add_comm]
  rw [course, List.filterMap_append, hwaiting, hcall, List.append_nil]

end Calls

/-- The results of an operation decide, together with the predicate and the limit, what becomes of a
loop. It ends with the first result that no other call might mend, if it comes to that result within
its limit; otherwise it ends with the error of the last call that it is allowed, which it reports; and
a loop without a limit goes on for ever if there is no such result. Between any two calls it sleeps
once, and its counter, which starts at one, never passes the limit. -/
theorem results_decide (limit : Nat) (operation : String) (again : ε → Bool)
    (body : Nat → Script (Except ε α)) (c : Calls body) :
    (∀ n, (∀ i < n, mendable again (c.result i)) → mendable again (c.result n) = false →
      (limit = 0 ∨ n < limit) →
      c.Leads (fun horizon s => when horizon s operation again body) limit operation n []
        (c.result n)) ∧
    (limit ≠ 0 → (∀ i < limit, mendable again (c.result i)) →
      ∃ e, c.result (limit - 1) = .error e ∧
        c.Leads (fun horizon s => when horizon s operation again body) limit operation (limit - 1)
          [gaveUp operation limit] (.error e)) ∧
    (limit = 0 → (∀ i, mendable again (c.result i)) →
      ∀ (s : Schedule) (w : Waits) (horizon : Nat), s.maxAttempts = limit → s.Paces w horizon →
        (when horizon s operation again body).Performs (c.waiting w operation horizon)
          (.error .unfinished)) ∧
    ∀ (w : Waits) (n : Nat),
      (c.course w operation n).countP Exchange.sleeps =
        n + ((List.range (n + 1)).map fun i => (c.exchanges i).countP Exchange.sleeps).sum ∧
      ((∀ i, ∀ x ∈ c.exchanges i, x.counter? = none) →
        (c.course w operation n).filterMap Exchange.counter? = List.range' 1 n) := by
  refine ⟨fun n hmend hlast hmore => Calls.settled_leads hmend hlast hmore,
    fun hlimit hmend => Calls.spent_leads operation hlimit hmend, ?_,
    fun w n => ⟨c.countP_sleeps, c.counters⟩⟩
  rintro rfl hmend s w horizon hlimit hpaces
  exact (when_endless hlimit hmend hpaces).performs

/-- Reads of a secret that come to given results. -/
def reads (answer : Nat → Except Error (Option Secret)) :
    Calls fun _ => (Script.get .secret "ca").run where
  exchanges n := [⟨.store .secret (.get "ca"), .ok (answer n)⟩]
  result := answer
  trace _ := ⟨_, [], rfl, rfl, rfl⟩

/-- Two failures, and then nothing is found. -/
def flaky : Calls fun _ => (Script.get .secret "ca").run :=
  reads fun n => if n < 2 then .error (.api 500 "Busy") else .ok none

/-- Random numbers that leave the pauses as long as the delays. -/
def evenly : Waits where
  chance _ := .ofRatio false 1 2
  pause n := .ofMillis (10 * 5 ^ n)

theorem paces_evenly : Schedule.onConflict.Paces evenly 3 := by
  intro i hi
  match i with
  | 0 => exact ⟨.ofMillis 10, .ofMillis 50, rfl, by decide +kernel, by decide +kernel⟩
  | 1 => exact ⟨.ofMillis 50, .ofMillis 250, by decide +kernel, by decide +kernel, by decide +kernel⟩
  | 2 =>
    exact ⟨.ofMillis 250, .ofSeconds 1, by decide +kernel, by decide +kernel, by decide +kernel⟩

/-- The third call is the last one, although a fourth would be allowed; two calls alone do not
suffice. -/
theorem results_decide_flaky :
    (always 1 .onConflict "read" fun _ => (Script.get .secret "ca").run).Performs
      (flaky.course evenly "read" 2) (.ok (.ok none)) ∧
    (always 1 { Schedule.onConflict with maxAttempts := 2 } "read" fun _ =>
      (Script.get .secret "ca").run).Performs
      (flaky.course evenly "read" 1 ++ [gaveUp "read" 2]) (.ok (.error (.api 500 "Busy"))) := by
  let short : Schedule := { Schedule.onConflict with maxAttempts := 2 }
  have hshort : short.Paces evenly 1 := fun i hi => by
    obtain ⟨delay, next, hdelay, hpause, hnext⟩ := paces_evenly i (by omega)
    obtain rfl : i = 0 := by omega
    exact ⟨delay, next, hdelay, hpause, hnext⟩
  refine ⟨?_, ?_⟩
  · have hleads := (results_decide 4 "read" (fun _ => true) _ flaky).1 2 (by decide) rfl
      (.inr (by decide))
    rw [← List.append_nil (flaky.course evenly "read" 2)]
    exact hleads.performs .onConflict evenly 1 rfl (fun i hi => paces_evenly i (by omega)) nofun
  · obtain ⟨e, he, hleads⟩ := (results_decide 2 "read" (fun _ => true) _ flaky).2.1 (by decide)
      (by decide)
    cases he
    exact hleads.performs short evenly 1 rfl hshort nofun

end Retry

end TrustAnchor
