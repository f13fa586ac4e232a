import TrustAnchor.Script.Together
import Mathlib.Tactic.Common

/-! Scripts side by side among any surroundings, one request at a time. In whatever order they take
their turns, what they do together is an interleaving of what each of them does. The surroundings
are given by the answers that a request can get in a state and the states that these lead to. -/

namespace TrustAnchor.Script

variable {α β σ : Type}

/-- The answers that requests can get in a state, each with the state that it leads to. -/
abbrev Moves (σ : Type) := σ → (r : Request) → Except String r.Answer → σ → Prop

/-- A script can come from a state to a result and another state. -/
def Follows (T : Moves σ) : Script α → σ → Except Stop α → σ → Prop
  | .done a, s, result, t => result = .ok a ∧ t = s
  | .stop why, s, result, t => result = .error why ∧ t = s
  | .ask r next, s, result, t =>
    ∃ answer m, T s r answer m ∧ (next answer).Follows T m result t

/-- Scripts side by side can come from one state to another, where they have become other scripts:
in each step one of them makes a request. -/
inductive Interleaves (T : Moves σ) : List (Script α) → σ → List (Script α) → σ → Prop
  | rest {ps s} : Interleaves T ps s ps s
  | step {ps s m i r next answer qs t} : ps[i]? = some (.ask r next) → T s r answer m →
    Interleaves T (ps.set i (next answer)) m qs t → Interleaves T ps s qs t

/-- The script that has ended with a result. -/
def ofResult : Except Stop α → Script α
  | .ok a => .done a
  | .error why => .stop why

variable {T : Moves σ} {s m t : σ} {ps qs us : List (Script α)} {p : Script α} {i : Nat}

theorem set_of_getElem? (h : ps[i]? = some p) : ps.set i p = ps := by
  obtain ⟨hi, rfl⟩ := List.getElem?_eq_some_iff.1 h
  exact List.set_getElem_self hi

theorem Follows.bind {f : α → Script β} {result : Except Stop β}
    (H : (p >>= f).Follows T s result t) :
    (∃ why, result = .error why ∧ p.Follows T s (.error why) t) ∨
      ∃ a m, p.Follows T s (.ok a) m ∧ (f a).Follows T m result t := by
  induction p generalizing s with
  | done a => exact .inr ⟨a, s, ⟨rfl, rfl⟩, H⟩
  | stop why => exact .inl ⟨why, H.1, rfl, H.2⟩
  | ask r next ih =>
    obtain ⟨answer, m, hm, H⟩ := H
    rcases ih answer H with ⟨why, hwhy, H⟩ | ⟨a, n, H, K⟩
    · exact .inl ⟨why, hwhy, answer, m, hm, H⟩
    · exact .inr ⟨a, n, ⟨answer, m, hm, H⟩, K⟩

/-- The only move that a handler makes at a request. -/
def answered (h : Handler σ) : Moves σ := fun s r answer t => answer = (h r s).1 ∧ t = (h r s).2

theorem follows_run (h : Handler σ) (p : Script α) (s : σ) :
    p.Follows (answered h) s (p.run h s).1 (p.run h s).2 := by
  induction p generalizing s with
  | done | stop => exact ⟨rfl, rfl⟩
  | ask r next ih => exact ⟨(h r s).1, (h r s).2, ⟨rfl, rfl⟩, ih _ (h r s).2⟩

namespace Interleaves

theorem length_eq (H : Interleaves T ps s qs t) : qs.length = ps.length := by
  induction H with
  | rest => rfl
  | step _ _ _ ih => rw [ih, List.length_set]

theorem stay (hp : ps[i]? = some p) : Interleaves T ps s (ps.set i p) s := by
  rw [set_of_getElem? hp]
  exact .rest

theorem trans (H : Interleaves T ps s qs m) (K : Interleaves T qs m us t) :
    Interleaves T ps s us t := by
  induction H with
  | rest => exact K
  | step hp hm _ ih => exact .step hp hm (ih K)

end Interleaves

/-- What is left of a script at the end of its turn. -/
def Turn.left : Turn α → Script α
  | .ended result => ofResult result
  | .asleep _ rest => rest
  | .interrupted rest => rest

theorem Follows.takeTurn {spare : Nat} {next : Turn α → Script β} {result : Except Stop β}
    (hp : ps[i]? = some p) (H : (takeTurn spare p next).Follows T s result t) :
    ∃ turn m, Interleaves T ps s (ps.set i turn.left) m ∧ (next turn).Follows T m result t := by
  induction p generalizing spare s ps with
  | done a => exact ⟨.ended (.ok a), s, .stay hp, H⟩
  | stop why => exact ⟨.ended (.error why), s, .stay hp, H⟩
  | ask r rest ih =>
    -- Whatever the request is, the turn may go on after its answer.
    have goes {answer m spare} (hm : T s r answer m)
        (H : (Script.takeTurn spare (rest answer) next).Follows T m result t) :
        ∃ turn m, Interleaves T ps s (ps.set i turn.left) m ∧ (next turn).Follows T m result t := by
      have hset : (ps.set i (rest answer))[i]? = some (rest answer) :=
        List.getElem?_set_self (List.getElem?_eq_some_iff.1 hp).1
      obtain ⟨turn, n, hsteps, hrun⟩ := ih answer hset H
      rw [List.set_set] at hsteps
      exact ⟨turn, n, .step hp hm hsteps, hrun⟩
    cases r with
    | sleep d =>
      rw [Script.takeTurn] at H
      split at H
      · exact ⟨.interrupted (.ask (.sleep d) rest), s, .stay hp, H⟩
      · obtain ⟨answer, m, hm, H⟩ := H
        split at H
        · exact goes hm H
        · exact ⟨.asleep d (rest answer), m, .step hp hm .rest, H⟩
    | _ =>
      obtain ⟨answer, m, hm, H⟩ := H
      exact goes hm H

namespace Agenda

/-- All scripts that have not ended, in any order. -/
def waiting (a : Agenda α) : List (Waiting α) :=
  a.ready ++ a.interrupted ++ a.asleep.map (·.toWaiting)

theorem waiting_start (scripts : List (Script α)) :
    (start scripts).waiting =
      scripts.zipIdx.map fun (rest, place) => { place, spare := share, rest } := by
  simp [waiting, start]

theorem next?_perm {a b : Agenda α} {w : Waiting α} (h : a.next? = some (w, b)) :
    a.waiting.Perm (w :: b.waiting) := by
  unfold next? at h
  split at h <;> rename_i hready
  · cases h
    simp [waiting, hready]
  · rename_i hinterrupted
    cases h
    simp [waiting, hready, hinterrupted]
  · rename_i sleeping rest hinterrupted hasleep
    cases h
    simp only [waiting, hready, hinterrupted, hasleep, List.map_cons, List.nil_append,
      List.append_nil, ← List.map_append, List.takeWhile_append_dropWhile]
    exact .refl _
  · cases h

theorem enqueue_perm (s : Sleeping α) (queue : List (Sleeping α)) :
    (enqueue s queue).Perm (s :: queue) := by
  induction queue with
  | nil => exact .refl _
  | cons v queue ih =>
    rw [enqueue]
    split
    · exact (ih.cons v).trans (.swap s v queue)
    · exact .refl _

theorem fallAsleep_perm (a : Agenda α) (place : Nat) (d : Duration) (rest : Script α) :
    (a.fallAsleep place d rest).waiting.Perm
      ({ place, spare := share - 1, rest } :: a.waiting) := by
  refine (((enqueue_perm _ a.asleep).map (·.toWaiting)).append_left _).trans ?_
  exact List.perm_middle

theorem interrupt_perm (a : Agenda α) (place : Nat) (rest : Script α) :
    (a.interrupt place rest).waiting.Perm ({ place, spare := share, rest } :: a.waiting) := by
  simp only [waiting, interrupt, List.append_assoc, List.cons_append]
  exact List.perm_middle

end Agenda

/-- Scripts, some of which wait for a turn and some of which have ended with a result. -/
structure Covers (ps : List (Script α)) (ws : List (Waiting α))
    (results : List (Option (Except Stop α))) : Prop where
  places : (ws.map (·.place)).Nodup
  waiting : ∀ w ∈ ws, ps[w.place]? = some w.rest ∧ results[w.place]? = some none
  ended : ∀ {i : Nat} {result : Except Stop α},
    results[i]? = some (some result) → ps[i]? = some (ofResult result)

namespace Covers

variable {ws vs : List (Waiting α)} {w v : Waiting α} {results : List (Option (Except Stop α))}

theorem start (scripts : List (Script α)) :
    Covers scripts (Agenda.start scripts).waiting (scripts.map fun _ => none) where
  places := by
    rw [Agenda.waiting_start, List.map_map]
    refine (List.zipIdx_map_snd 0 scripts).symm ▸ ?_
    exact List.nodup_range'
  waiting w hw := by
    rw [Agenda.waiting_start] at hw
    obtain ⟨⟨rest, place⟩, hmem, rfl⟩ := List.mem_map.1 hw
    have hrest : scripts[place]? = some rest := List.mem_zipIdx_iff_getElem?.1 hmem
    exact ⟨hrest, by rw [List.getElem?_map, hrest, Option.map_some]⟩
  ended h := by
    obtain ⟨_, -, h⟩ := List.mem_map.1 (List.mem_of_getElem? h)
    cases h

theorem perm (H : Covers ps ws results) (h : ws.Perm vs) : Covers ps vs results where
  places := (h.map _).nodup_iff.1 H.places
  waiting v hv := H.waiting v (h.mem_iff.2 hv)
  ended := H.ended

/-- The scripts that wait are not touched by what becomes of another one. -/
private theorem waiting_set (H : Covers ps (w :: ws) results) (q : Script α) (hv : v ∈ ws) :
    (ps.set w.place q)[v.place]? = some v.rest ∧ v.place ≠ w.place := by
  have hne : w.place ≠ v.place := fun h =>
    (List.nodup_cons.1 H.places).1 (List.mem_map.2 ⟨v, hv, h.symm⟩)
  rw [List.getElem?_set_ne hne]
  exact ⟨(H.waiting v (List.mem_cons_of_mem w hv)).1, hne.symm⟩

/-- A turn has ended, and its script waits again. -/
theorem wait (H : Covers ps (w :: ws) results) (hplace : v.place = w.place) :
    Covers (ps.set w.place v.rest) (v :: ws) results where
  places := by
    rw [List.map_cons, hplace]
    exact H.places
  waiting u hu := by
    obtain ⟨hrest, hnone⟩ := H.waiting w List.mem_cons_self
    rcases List.mem_cons.1 hu with rfl | hu
    · rw [hplace, List.getElem?_set_self (List.getElem?_eq_some_iff.1 hrest).1]
      exact ⟨rfl, hnone⟩
    · exact ⟨(H.waiting_set v.rest hu).1, (H.waiting u (List.mem_cons_of_mem w hu)).2⟩
  ended {i result} h := by
    have hne : w.place ≠ i := by
      rintro rfl
      rw [(H.waiting w List.mem_cons_self).2] at h
      cases h
    rw [List.getElem?_set_ne hne]
    exact H.ended h

/-- A script has ended with a result. -/
theorem finish (H : Covers ps (w :: ws) results) (result : Except Stop α) :
    Covers (ps.set w.place (ofResult result)) ws (results.set w.place (some result)) where
  places := (List.nodup_cons.1 H.places).2
  waiting v hv := by
    obtain ⟨hrest, hne⟩ := H.waiting_set (ofResult result) hv
    refine ⟨hrest, ?_⟩
    rw [List.getElem?_set_ne hne.symm]
    exact (H.waiting v (List.mem_cons_of_mem w hv)).2
  ended {i other} h := by
    obtain ⟨hrest, hopen⟩ := H.waiting w List.mem_cons_self
    by_cases hi : w.place = i
    · subst hi
      rw [List.getElem?_set_self', hopen] at h
      rw [List.getElem?_set_self (List.getElem?_eq_some_iff.1 hrest).1]
      cases h
      rfl
    · rw [List.getElem?_set_ne hi] at h ⊢
      exact H.ended h

end Covers

theorem Follows.takeTurns {turns : Nat} {agenda : Agenda α}
    {results : List (Option (Except Stop α))}
    {result : Except Stop (List (Option (Except Stop α)))}
    (hcovers : Covers ps agenda.waiting results)
    (H : (takeTurns turns agenda results).Follows T s result t) :
    ∃ qs, Interleaves T ps s qs t ∧ ((∃ final ws, result = .ok final ∧ Covers qs ws final ∧
      final.length = results.length) ∨ result = .error .unfinished) := by
  induction turns generalizing agenda results ps s with
  | zero =>
    rw [Script.takeTurns] at H
    split at H
    · obtain ⟨rfl, rfl⟩ := H
      exact ⟨ps, .rest, .inl ⟨results, _, rfl, hcovers, rfl⟩⟩
    · obtain ⟨rfl, rfl⟩ := H
      exact ⟨ps, .rest, .inr rfl⟩
  | succ turns ih =>
    rw [Script.takeTurns] at H
    split at H
    · obtain ⟨rfl, rfl⟩ := H
      exact ⟨ps, .rest, .inl ⟨results, _, rfl, hcovers, rfl⟩⟩
    · rename_i w agenda' hnext
      have hcovers := hcovers.perm (Agenda.next?_perm hnext)
      obtain ⟨turn, m, hsteps, H⟩ := H.takeTurn (hcovers.waiting w List.mem_cons_self).1
      cases turn with
      | ended r =>
        obtain ⟨qs, hrest, hend⟩ := ih (hcovers.finish r) H
        rw [List.length_set] at hend
        exact ⟨qs, hsteps.trans hrest, hend⟩
      | asleep d rest =>
        have hwait := hcovers.wait (v := { place := w.place, spare := share - 1, rest }) rfl
        obtain ⟨qs, hrest, hend⟩ :=
          ih (hwait.perm (Agenda.fallAsleep_perm agenda' w.place d rest).symm) H
        exact ⟨qs, hsteps.trans hrest, hend⟩
      | interrupted rest =>
        have hwait := hcovers.wait (v := { place := w.place, spare := share, rest }) rfl
        obtain ⟨qs, hrest, hend⟩ :=
          ih (hwait.perm (Agenda.interrupt_perm agenda' w.place rest).symm) H
        exact ⟨qs, hsteps.trans hrest, hend⟩

/-- Collecting results asks for nothing, and has only one way to fail. -/
theorem collect_cases (results : List (Option (Except Stop α))) :
    (∃ outcomes, collect results = .done outcomes ∧
      results = outcomes.map fun o => some (o.mapError Stop.panicked)) ∨
        collect results = .stop .unfinished := by
  induction results with
  | nil => exact .inl ⟨[], rfl, rfl⟩
  | cons head rest ih =>
    match head with
    | some (.ok a) =>
      rw [collect]
      rcases ih with ⟨outcomes, hrest, rfl⟩ | hrest
      · exact .inl ⟨.ok a :: outcomes, by rw [hrest]; rfl, rfl⟩
      · exact .inr (by rw [hrest]; rfl)
    | some (.error (.panicked text)) =>
      rw [collect]
      rcases ih with ⟨outcomes, hrest, rfl⟩ | hrest
      · exact .inl ⟨.error text :: outcomes, by rw [hrest]; rfl, rfl⟩
      · exact .inr (by rw [hrest]; rfl)
    | some (.error .unfinished) => exact .inr rfl
    | none => exact .inr rfl

/-- Running scripts side by side, however that ends, is a matter of steps of each of them. If it
comes to an end, every one has ended as is told of it; and it has only one way to fail. -/
theorem Follows.together {rounds : Nat} {result : Except Stop (List (Except String α))}
    (H : (together rounds ps).Follows T s result t) :
    ∃ qs, Interleaves T ps s qs t ∧
      ((∃ outcomes, result = .ok outcomes ∧
        qs = outcomes.map fun o => ofResult (o.mapError .panicked)) ∨
          result = .error .unfinished) := by
  rcases H.bind with ⟨why, rfl, hturns⟩ | ⟨final, m, hturns, hcollect⟩
  · obtain ⟨qs, hsteps, ⟨final, -, h, -⟩ | h⟩ := hturns.takeTurns (.start ps)
    · cases h
    · exact ⟨qs, hsteps, .inr (congrArg _ (Except.error.inj h))⟩
  · obtain ⟨qs, hsteps, ⟨final', ws, h, hcovers, hlength⟩ | h⟩ := hturns.takeTurns (.start ps)
    case inr => cases h
    cases h
    rcases collect_cases final with ⟨outcomes, hdone, rfl⟩ | hstop
    · rw [hdone] at hcollect
      obtain ⟨rfl, rfl⟩ := hcollect
      refine ⟨qs, hsteps, .inl ⟨outcomes, rfl, ?_⟩⟩
      rw [List.length_map, List.length_map] at hlength
      refine List.ext_getElem ?_ fun i hi ho => ?_
      · rw [hsteps.length_eq, List.length_map, hlength]
      · rw [List.length_map] at ho
        have hended : qs[i]? = some (ofResult (outcomes[i].mapError .panicked)) :=
          hcovers.ended (by rw [List.getElem?_map, List.getElem?_eq_getElem ho, Option.map_some])
        rw [List.getElem_map]
        exact (List.getElem?_eq_some_iff.1 hended).2
    · rw [hstop] at hcollect
      obtain ⟨rfl, rfl⟩ := hcollect
      exact ⟨qs, hsteps, .inr rfl⟩

end TrustAnchor.Script
