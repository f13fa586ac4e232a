import TrustAnchor.Proofs.Interleaving
import TrustAnchor.Proofs.Runs

/-! Scripts side by side among other writers. In whatever order they take their turns, what they do
together is an interleaving of what each of them does. -/

namespace TrustAnchor

/-- What a request can lead to when the surroundings move as `R` allows before it. -/
def Scene.moves (R : Scene → Scene → Prop) : Script.Moves Scene := fun s r answer t =>
  ∃ m stores, R s m ∧ ∃ H : m.Answers r answer stores, t = m.after H

namespace Script

variable {α β : Type}

/-- Scripts side by side can come from one scene to another, where they have become other scripts:
in each step the surroundings move as `R` allows, and one of the scripts makes a request. -/
inductive Steps (R : Scene → Scene → Prop) :
    List (Script α) → Scene → List (Script α) → Scene → Prop
  | rest {ps s t} : R s t → Steps R ps s ps t
  | step {ps s m i r next answer stores qs t} : ps[i]? = some (.ask r next) → R s m →
    (H : m.Answers r answer stores) → Steps R (ps.set i (next answer)) (m.after H) qs t →
    Steps R ps s qs t

variable {R : Scene → Scene → Prop} {s m t : Scene} {ps qs : List (Script α)} {p : Script α}

theorem Steps.length_eq (H : Steps R ps s qs t) : qs.length = ps.length := by
  induction H with
  | rest => rfl
  | step _ _ _ _ ih => rw [ih, List.length_set]

/-- A run is one with the moves of the surroundings, and one more move at the end. -/
theorem Runs.follows {result : Except Stop α} (H : p.Runs R s result t) :
    ∃ m, p.Follows (Scene.moves R) s result m ∧ R m t := by
  induction p generalizing s with
  | done a => exact ⟨s, ⟨H.1, rfl⟩, H.2⟩
  | stop why => exact ⟨s, ⟨H.1, rfl⟩, H.2⟩
  | ask r next ih =>
    obtain ⟨m, answer, stores, hm, hanswer, H⟩ := H
    obtain ⟨n, hfollows, hn⟩ := ih answer H
    exact ⟨n, ⟨answer, m.after hanswer, ⟨m, stores, hm, hanswer, rfl⟩, hfollows⟩, hn⟩

theorem Interleaves.steps (H : Interleaves (Scene.moves R) ps s qs m) (hR : R m t) :
    Steps R ps s qs t := by
  induction H with
  | rest => exact .rest hR
  | step hp hmoves _ ih =>
    obtain ⟨n, stores, hn, hanswer, rfl⟩ := hmoves
    exact .step hp hn hanswer (ih hR)

/-- A script alone. -/
theorem Runs.steps {result : Except Stop α} (H : p.Runs R s result t) :
    Steps R [p] s [ofResult result] t := by
  induction p generalizing s with
  | done a =>
    obtain ⟨rfl, hR⟩ := H
    exact .rest hR
  | stop why =>
    obtain ⟨rfl, hR⟩ := H
    exact .rest hR
  | ask r next ih =>
    obtain ⟨m, answer, stores, hm, hanswer, H⟩ := H
    exact .step (i := 0) rfl hm hanswer (ih answer H)

/-- Any run of scripts side by side is made of steps of each of them, and has only one way to
fail. -/
theorem Runs.together_cases {rounds : Nat} {result : Except Stop (List (Except String α))}
    (H : (together rounds ps).Runs R s result t) :
    ∃ qs, Steps R ps s qs t ∧
      ((∃ outcomes, result = .ok outcomes ∧
        qs = outcomes.map fun o => ofResult (o.mapError .panicked)) ∨
          result = .error .unfinished) := by
  obtain ⟨m, hfollows, hR⟩ := H.follows
  obtain ⟨qs, hsteps, hend⟩ := hfollows.together
  exact ⟨qs, hsteps.steps hR, hend⟩

/-- A run of scripts side by side that comes to an end is made of steps of each of them, until every
one has ended as is told of it. -/
theorem Runs.together {rounds : Nat} {outcomes : List (Except String α)}
    (H : (together rounds ps).Runs R s (.ok outcomes) t) :
    Steps R ps s (outcomes.map fun o => ofResult (o.mapError .panicked)) t := by
  obtain ⟨qs, hsteps, ⟨outcomes', h, rfl⟩ | h⟩ := H.together_cases
  · cases h
    exact hsteps
  · cases h

namespace Asks

variable {P : Request → Prop}

theorem takeTurn {spare : Nat} {next : Turn α → Script β} (H : p.Asks P)
    (hnext : ∀ turn, turn.left.Asks P → (next turn).Asks P) : (takeTurn spare p next).Asks P := by
  induction p generalizing spare with
  | done a => exact hnext (.ended (.ok a)) trivial
  | stop why => exact hnext (.ended (.error why)) trivial
  | ask r rest ih =>
    cases r with
    | sleep d =>
      rw [Script.takeTurn]
      split
      · exact hnext (.interrupted (.ask (.sleep d) rest)) H
      · refine ⟨H.1, fun answer h => ?_⟩
        dsimp only
        split
        · exact ih answer (H.2 answer h)
        · exact hnext (.asleep d (rest answer)) (H.2 answer h)
    | _ => exact ⟨H.1, fun answer h => ih answer (H.2 answer h)⟩

theorem takeTurns {turns : Nat} {agenda : Agenda α} {results : List (Option (Except Stop α))}
    (H : ∀ w ∈ agenda.waiting, w.rest.Asks P) : (takeTurns turns agenda results).Asks P := by
  induction turns generalizing agenda results with
  | zero =>
    rw [Script.takeTurns]
    split <;> trivial
  | succ turns ih =>
    rw [Script.takeTurns]
    split
    · trivial
    · rename_i w agenda' hnext
      have H : ∀ v ∈ w :: agenda'.waiting, v.rest.Asks P :=
        fun v hv => H v ((Agenda.next?_perm hnext).mem_iff.2 hv)
      have hrest : ∀ v ∈ agenda'.waiting, v.rest.Asks P :=
        fun v hv => H v (List.mem_cons_of_mem w hv)
      refine (H w List.mem_cons_self).takeTurn fun turn hleft => ?_
      cases turn with
      | ended result => exact ih hrest
      | asleep d rest =>
        refine ih fun v hv => ?_
        rcases List.mem_cons.1 ((Agenda.fallAsleep_perm ..).mem_iff.1 hv) with rfl | hv
        · exact hleft
        · exact hrest v hv
      | interrupted rest =>
        refine ih fun v hv => ?_
        rcases List.mem_cons.1 ((Agenda.interrupt_perm ..).mem_iff.1 hv) with rfl | hv
        · exact hleft
        · exact hrest v hv

theorem collect (results : List (Option (Except Stop α))) : (collect results).Asks P := by
  induction results with
  | nil => trivial
  | cons head rest ih =>
    match head with
    | some (.ok a) => exact ih.bind fun _ => trivial
    | some (.error (.panicked text)) => exact ih.bind fun _ => trivial
    | some (.error .unfinished) => trivial
    | none => trivial

theorem together {rounds : Nat} (H : ∀ p ∈ ps, p.Asks P) : (together rounds ps).Asks P := by
  refine (Asks.takeTurns fun w hw => ?_).bind Asks.collect
  rw [Agenda.waiting_start] at hw
  obtain ⟨⟨rest, place⟩, hmem, rfl⟩ := List.mem_map.1 hw
  exact H rest (List.fst_mem_of_mem_zipIdx hmem)

end Asks

end Script

end TrustAnchor
