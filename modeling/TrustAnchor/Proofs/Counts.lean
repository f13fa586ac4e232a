import TrustAnchor.Proofs.Errands
import Mathlib.Algebra.GroupWithZero.Nat

/-! How often an object is read. A loop with an end reads its object once in each of its attempts,
and nothing else; so a pass reads no object more often than its attempts allow, whatever the answers
are and in whatever order scripts side by side take their turns. -/

namespace TrustAnchor

open Script (Attempt WentWell)

namespace Exchange

/-- A read of the object of a kind and a name. -/
def reads (k : Kind) (name : String) : Exchange → Bool
  | ⟨.store k' (.get name'), _⟩ => k' = k && name' = name
  | _ => false

variable {k k' : Kind} {name name' : String}

theorem reads_of_idle {x : Exchange} (h : x.Idle) : x.reads k name = false := by
  obtain ⟨r, answer⟩ := x
  cases r with
  | store => exact h.elim
  | _ => rfl

theorem reads_read {answer : Except String (Except Error (Option k'.Object))} :
    (read k' name' answer).reads k name = (k' = k && name' = name) := rfl

theorem reads_put {found : Option k'.Object} {x : k'.Object}
    {answer : Except String (Except Error k'.Object)} :
    (put k' found x answer).reads k name = false := by
  cases found <;> rfl

end Exchange

namespace Script

variable {α β : Type} {P : Exchange → Bool} {a b n : Nat} {p : Script α} {f : α → Script β}
  {es : List Exchange}

/-- The script makes no more exchanges of a sort than that, whatever the answers. -/
def AtMost (P : Exchange → Bool) (n : Nat) (p : Script α) : Prop :=
  ∀ ⦃es result⦄, p.Trace es result → es.countP P ≤ n

namespace AtMost

theorem done {x : α} : (Script.done x).AtMost P n := by
  rintro es result ⟨rfl, -⟩
  exact Nat.zero_le n

theorem bind (H : p.AtMost P a) (K : ∀ x, (f x).AtMost P b) : (p >>= f).AtMost P (a + b) := by
  intro es result htrace
  rcases htrace.bind with ⟨why, -, hp⟩ | ⟨x, first, rest, rfl, hp, hf⟩
  · exact (H hp).trans (Nat.le_add_right a b)
  · rw [List.countP_append]
    exact Nat.add_le_add (H hp) (K x hf)

theorem attempt {x : Attempt α} {g : α → Attempt β} (H : x.run.AtMost P a)
    (K : ∀ y, (g y).run.AtMost P b) : (x >>= g).run.AtMost P (a + b) := by
  intro es result htrace
  rcases htrace.attempt with ⟨-, inner, hx⟩ | ⟨y, first, rest, rfl, hx, hg⟩
  · exact (H hx).trans (Nat.le_add_right a b)
  · rw [List.countP_append]
    exact Nat.add_le_add (H hx) (K y hg)

theorem request {r : Request} (h : ∀ answer, (if P ⟨r, answer⟩ then 1 else 0) ≤ n) :
    (Script.request r).AtMost P n := by
  rintro es result ⟨answer, rest, rfl, htrace⟩
  have hrest : rest = [] := by
    cases answer with
    | ok => exact htrace.1
    | error => exact htrace.1
  rw [hrest, List.countP_singleton]
  exact h answer

theorem lift (H : p.AtMost P n) : (liftM p : Attempt α).run.AtMost P n := by
  show Script.AtMost P (n + 0) (p >>= fun x => .done (Except.ok x))
  exact H.bind fun _ => .done

theorem ofExcept {result : Except Error α} : (ofExcept result : Attempt α).run.AtMost P n := by
  cases result with
  | ok => exact done
  | error => exact done

end AtMost

/-! ## Side by side -/

/-- Only the exchanges are kept, the newest first; every answer can come. -/
def recorded : Moves (List Exchange) := fun es r answer es' => es' = ⟨r, answer⟩ :: es

theorem Trace.follows {past : List Exchange} {result : Except Stop α} (H : p.Trace es result) :
    p.Follows recorded past result (es.reverse ++ past) := by
  induction p generalizing es past with
  | done a =>
    obtain ⟨rfl, rfl⟩ := H
    exact ⟨rfl, rfl⟩
  | stop why =>
    obtain ⟨rfl, rfl⟩ := H
    exact ⟨rfl, rfl⟩
  | ask r next ih =>
    obtain ⟨answer, rest, rfl, H⟩ := H
    refine ⟨answer, ⟨r, answer⟩ :: past, rfl, ?_⟩
    rw [List.reverse_cons, List.append_assoc]
    exact ih answer H

theorem exists_trace (p : Script α) : ∃ es result, p.Trace es result := by
  induction p with
  | done a => exact ⟨[], .ok a, rfl, rfl⟩
  | stop why => exact ⟨[], .error why, rfl, rfl⟩
  | ask r next ih =>
    obtain ⟨es, result, H⟩ := ih (.error "")
    exact ⟨⟨r, .error ""⟩ :: es, result, .error "", es, rfl, H⟩

theorem AtMost.ask {r : Request} {next : Except String r.Answer → Script α}
    (H : (Script.ask r next).AtMost P n) (answer : Except String r.Answer) :
    ∃ m, (next answer).AtMost P m ∧ m + (if P ⟨r, answer⟩ then 1 else 0) = n := by
  have hle {es result} (htrace : (next answer).Trace es result) :
      es.countP P + (if P ⟨r, answer⟩ then 1 else 0) ≤ n := by
    rw [← List.countP_cons]
    exact H ⟨answer, es, rfl, htrace⟩
  obtain ⟨es, result, htrace⟩ := exists_trace (next answer)
  refine ⟨n - (if P ⟨r, answer⟩ then 1 else 0), fun es result htrace => ?_, ?_⟩
  · exact Nat.le_sub_of_add_le (hle htrace)
  · exact Nat.sub_add_cancel ((Nat.le_add_left _ _).trans (hle htrace))

/-- Scripts that together make no more exchanges of a sort than that. -/
def TogetherAtMost (P : Exchange → Bool) : Nat → List (Script α) → Prop
  | _, [] => True
  | n, p :: ps => ∃ a b, p.AtMost P a ∧ TogetherAtMost P b ps ∧ a + b ≤ n

namespace TogetherAtMost

variable {ps qs : List (Script α)}

/-- One of the scripts may become another one. -/
theorem set {i : Nat} (H : TogetherAtMost P n ps) (hi : ps[i]? = some p) :
    ∃ a b, p.AtMost P a ∧ a + b ≤ n ∧
      ∀ {q c m}, q.AtMost P c → c + b ≤ m → TogetherAtMost P m (ps.set i q) := by
  induction ps generalizing i n with
  | nil => cases hi
  | cons head ps ih =>
    obtain ⟨a, b, hhead, hrest, hle⟩ := H
    cases i with
    | zero =>
      cases hi
      exact ⟨a, b, hhead, hle, fun hq hle => ⟨_, b, hq, hrest, hle⟩⟩
    | succ i =>
      obtain ⟨a', b', hp, hle', hset⟩ := ih hrest hi
      refine ⟨a', a + b', hp, by omega, fun {q c m} hq hle => ?_⟩
      exact ⟨a, c + b', hhead, hset hq (Nat.le_refl _), by omega⟩

theorem interleaves {past later : List Exchange} (H : TogetherAtMost P n ps)
    (hsteps : Interleaves recorded ps past qs later) : later.countP P ≤ past.countP P + n := by
  induction hsteps generalizing n with
  | rest => exact Nat.le_add_right _ n
  | @step ps past m i r next answer qs later hp hm _ ih =>
    cases hm
    obtain ⟨a, b, hask, hle, hset⟩ := H.set hp
    obtain ⟨c, hnext, hc⟩ := hask.ask answer
    have hlater := ih (hset hnext (Nat.le_refl _))
    rw [List.countP_cons] at hlater
    omega

theorem together {rounds : Nat} (H : TogetherAtMost P n ps) :
    (together rounds ps).AtMost P n := by
  intro es result htrace
  have hfollows : (Script.together rounds ps).Follows recorded [] result (es.reverse ++ []) :=
    htrace.follows
  obtain ⟨qs, hsteps, -⟩ := hfollows.together
  have hle := H.interleaves hsteps
  rwa [List.append_nil, List.countP_reverse, List.countP_nil, Nat.zero_add] at hle

theorem of_forall {ι : Type} {is : List ι} {script : ι → Script α} {share : ι → Nat}
    (H : ∀ i ∈ is, (script i).AtMost P (share i)) :
    TogetherAtMost P (is.map share).sum (is.map script) := by
  induction is with
  | nil => trivial
  | cons i is ih =>
    obtain ⟨hi, hrest⟩ := List.forall_mem_cons.1 H
    rw [List.map_cons, List.sum_cons]
    exact ⟨share i, (is.map share).sum, hi, ih hrest, Nat.le_refl _⟩

end TogetherAtMost

end Script

/-! ## Loops -/

namespace Retry

variable {α : Type} {s : Schedule} {again : Error → Bool} {P : Exchange → Bool}
  {body : Nat → Script (Except Error α)} {n share : Nat} {trials : List (Trial Error α)}
  {es : List Exchange} {result : Except Stop (Except Error α)}

/-- A loop makes the exchanges of its attempts, and idle ones between two of them. -/
theorem Tries.countP_le (H : Tries s again body n trials es result)
    (hidle : ∀ x : Exchange, x.Idle → P x = false) (hbody : ∀ n, (body n).AtMost P share) :
    es.countP P ≤ trials.length * share := by
  have quiet {idle : List Exchange} (h : ∀ x ∈ idle, x.Idle) : idle.countP P = 0 := by
    rw [List.countP_eq_zero]
    intro x hx
    rw [hidle x (h x hx)]
    exact Bool.false_ne_true
  induction H with
  | cut => exact Nat.zero_le _
  | ended htrace =>
    rw [List.length_singleton, Nat.one_mul]
    exact hbody _ htrace
  | spent htrace _ _ _ hidles =>
    rw [List.length_singleton, Nat.one_mul, List.countP_append, quiet hidles]
    exact hbody _ htrace
  | again htrace _ _ hidles _ ih =>
    have hfirst := hbody _ htrace
    rw [List.length_cons, Nat.succ_mul, List.countP_append, List.countP_append, quiet hidles]
    omega

end Retry

namespace Errand

variable {e : Errand} {horizon n : Nat} {s : Schedule} {k : Kind} {name : String}
  {es : List Exchange} {result : Except Stop (Except Error e.Result)}

/-- An attempt reads its object once, and no other. -/
theorem attempt_atMost : e.attempt.run.AtMost (Exchange.reads k name)
    (if e.kind = k ∧ e.name = name then 1 else 0) := by
  intro es result htrace
  rw [attempt_eq] at htrace
  cases Amendment.attempt_course htrace with
  | unread | finished =>
    rw [List.countP_singleton, Exchange.reads_read]
    simp
  | unwritten | written =>
    rw [List.countP_cons, List.countP_singleton, Exchange.reads_read, Exchange.reads_put]
    simp

theorem loop_atMost (h : s.maxAttempts ≠ 0) : (e.loop horizon s).run.AtMost (Exchange.reads k name)
    (if e.kind = k ∧ e.name = name then s.maxAttempts else 0) := by
  intro es result htrace
  obtain ⟨trials, inner, htries, -⟩ := e.tries htrace
  have hlength := htries.length_le (Nat.pos_of_ne_zero h)
  have hcount := htries.countP_le (P := Exchange.reads k name)
    (fun _ => Exchange.reads_of_idle) fun _ => e.attempt_atMost
  split at hcount
  · rename_i hname
    rw [if_pos hname]
    omega
  · rename_i hname
    rw [if_neg hname]
    omega

end Errand

namespace Rotation

variable {horizon : Nat} {c : Controller} {k : Kind} {name : String} {bundle : Bytes}
  {schedule : Schedule} {targets : List Target} {reader : Authority.Reader}

theorem propagate_atMost (h : schedule.maxAttempts ≠ 0) :
    (propagate horizon targets bundle schedule).run.AtMost (Exchange.reads k name)
      (targets.map fun t => if Kind.webhook t.kind = k ∧ t.name = name then schedule.maxAttempts
        else 0).sum := by
  refine Script.AtMost.bind (b := 0) (Script.TogetherAtMost.together ?_) fun _ => .done
  exact .of_forall fun t _ => (Errand.sync t bundle).loop_atMost h

theorem now_atMost {n : Nat} :
    (liftM (Script.request .now) : Attempt Instant).run.AtMost (Exchange.reads k name) n := by
  refine .lift (.request fun _ => Nat.zero_le n)

theorem load_atMost {secret : String} : (load secret reader).run.AtMost (Exchange.reads k name)
    (if .secret = k ∧ secret = name then 1 else 0) := by
  refine Script.AtMost.attempt (a := if .secret = k ∧ secret = name then 1 else 0) (b := 0)
    (.request fun answer => ?_) fun found => ?_
  · simp [Exchange.reads]
  · cases found with
    | none => exact .done
    | some secret => exact .ofExcept

theorem choose_atMost {found : Option Authority} {now : Instant} :
    (choose found now).run.AtMost (Exchange.reads k name) 0 := by
  rw [choose]
  split
  · exact .done
  · refine Script.AtMost.attempt (b := 0) (a := 0) ?_ fun _ => .done
    refine Script.AtMost.attempt (b := 0) (a := 0) ?_ fun answer => ?_
    · exact .lift (.request fun _ => Nat.le_refl 0)
    · exact Script.AtMost.attempt (b := 0) (a := 0) .ofExcept fun _ =>
        Script.AtMost.attempt (b := 0) (a := 0) .ofExcept fun _ => .done

theorem withdraw_atMost (h : c.schedule.maxAttempts ≠ 0) {persistence : Written} :
    (withdraw horizon c persistence).run.AtMost (Exchange.reads k name)
      (if .secret = k ∧ c.leafSecret = name then c.schedule.maxAttempts else 0) := by
  cases persistence with
  | updated =>
    exact Script.AtMost.attempt (b := 0) ((Errand.withdraw c.leafSecret).loop_atMost h)
      fun _ => .done
  | created => exact .done
  | unchanged => exact .done

/-- How often a pass reads an object: it looks for the authority once, and then each of its loops
reads its own object. -/
theorem pass_atMost (h : c.schedule.maxAttempts ≠ 0) :
    (pass horizon c).run.AtMost (Exchange.reads k name)
      ((if .secret = k ∧ c.caSecret = name then 1 else 0) +
        ((c.targets.map fun t =>
          if .webhook t.kind = k ∧ t.name = name then c.schedule.maxAttempts else 0).sum +
        ((if .secret = k ∧ c.caSecret = name then c.schedule.maxAttempts else 0) +
          (if .secret = k ∧ c.leafSecret = name then c.schedule.maxAttempts else 0)))) := by
  rw [pass_eq, ← Nat.zero_add (_ + _)]
  refine .attempt now_atMost fun now => .attempt load_atMost fun found => ?_
  rw [← Nat.zero_add (_ + _)]
  refine .attempt choose_atMost fun (a, _) => .attempt (propagate_atMost h) fun _ => ?_
  refine .attempt ((Errand.store _ _ a).loop_atMost h) fun persistence => ?_
  exact Script.AtMost.attempt (b := 0) (withdraw_atMost h) fun _ => .done

end Rotation

end TrustAnchor
