import TrustAnchor.Script.Together

/-! Scripts that come to their end without a sleep. Such a script keeps its turn, so those that run
side by side run one after the other. -/

namespace TrustAnchor.Script

variable {α β σ : Type}

/-- The answers to requests in a state, each with the state that it leads to; there is none where the
request is not to be made. -/
abbrev Replies (σ : Type) := (r : Request) → σ → Option (Except String r.Answer × σ)

/-- What a script comes to, and the state that it leaves, if there is a reply to each of its requests
and it does not break off. -/
def reach (h : Replies σ) : Script α → σ → Option (α × σ)
  | .done a, s => some (a, s)
  | .stop _, _ => none
  | .ask r next, s => (h r s).bind fun (answer, t) => (next answer).reach h t

/-- The replies of a handler, to all requests but those to sleep. -/
def wakeful (h : Handler σ) : Replies σ
  | .sleep _, _ => none
  | r, s => some (h r s)

variable {h : Replies σ} {s t : σ} {p : Script α} {f : α → Script β} {a : α}

theorem reach_bind (H : p.reach h s = some (a, t)) : (p >>= f).reach h s = (f a).reach h t := by
  induction p generalizing s with
  | done a =>
    cases H
    rfl
  | stop why => cases H
  | ask r next ih =>
    obtain ⟨⟨answer, m⟩, hreply, H⟩ := Option.bind_eq_some_iff.1 H
    rw [ask_bind, reach, hreply]
    exact ih answer H

theorem reach_store {h : Handler σ} {k : Kind} {c : Call k.Object}
    {next : Except String c.Answer → Script α} :
    (Script.ask (.store k c) next).reach (wakeful h) s =
      (next (h (.store k c) s).1).reach (wakeful h) (h (.store k c) s).2 := rfl

theorem run_of_reach {h : Handler σ} (H : p.reach (wakeful h) s = some (a, t)) :
    p.run h s = (.ok a, t) := by
  induction p generalizing s with
  | done a =>
    cases H
    rfl
  | stop why => cases H
  | ask r next ih =>
    cases r with
    | sleep d => cases H
    | store | now | generate | chance | report => exact ih _ H

/-! ## Side by side -/

section Together

variable {ps : List (Script α)} {spare turns rounds : Nat} {C : σ → Prop} {Q : α → Prop}
  (hsleep : ∀ d s, h (.sleep d) s = none)
include hsleep

theorem reach_takeTurn {next : Turn α → Script β} (H : p.reach h s = some (a, t)) :
    (takeTurn spare p next).reach h s = (next (.ended (.ok a))).reach h t := by
  induction p generalizing s with
  | done a =>
    cases H
    rfl
  | stop why => cases H
  | ask r rest ih =>
    obtain ⟨⟨answer, m⟩, hreply, H⟩ := Option.bind_eq_some_iff.1 H
    cases r with
    | sleep d =>
      rw [hsleep] at hreply
      cases hreply
    | store | now | generate | chance | report =>
      rw [takeTurn, reach, hreply]
      · exact ih answer H
      · nofun

/-- What the scripts come to, each in its place after those that have ended before. What one leaves
is good enough for the next. -/
theorem reach_takeTurns (now : Nat) (ended : List (Option (Except Stop α)))
    (hturns : ps.length ≤ turns)
    (H : ∀ p ∈ ps, ∀ s, C s → ∃ a t, p.reach h s = some (a, t) ∧ Q a ∧ C t) (hs : C s) :
    ∃ (as : List α) (t : σ), as.length = ps.length ∧ (∀ a ∈ as, Q a) ∧ C t ∧
      (takeTurns turns
        { now
          ready := (ps.zipIdx ended.length).map fun (rest, place) => { place, spare := share, rest }
          interrupted := []
          asleep := [] } (ended ++ ps.map fun _ => none)).reach h s =
        some (ended ++ as.map fun a => some (.ok a), t) := by
  induction ps generalizing turns ended s with
  | nil =>
    refine ⟨[], s, rfl, nofun, hs, ?_⟩
    cases turns with
    | zero => rfl
    | succ turns => rfl
  | cons p ps ih =>
    obtain ⟨hp, hps⟩ := List.forall_mem_cons.1 H
    obtain _ | turns := turns
    · cases hturns
    obtain ⟨a, m, hreach, ha, hm⟩ := hp s hs
    obtain ⟨as, t, hlength, has, ht, hrest⟩ :=
      ih (ended ++ [some (.ok a)]) (Nat.le_of_succ_le_succ hturns) hps hm
    refine ⟨a :: as, t, congrArg Nat.succ hlength, List.forall_mem_cons.2 ⟨ha, has⟩, ht, ?_⟩
    rw [List.length_append, List.length_singleton, List.append_assoc, List.append_assoc] at hrest
    have hplace : (ended ++ (p :: ps).map fun _ => none).set ended.length (some (.ok a)) =
        ended ++ ([some (.ok a)] ++ ps.map fun _ => none) := by
      simp
    rw [takeTurns]
    simp only [List.zipIdx_cons, List.map_cons, Agenda.next?]
    rw [reach_takeTurn hsleep hreach]
    dsimp only
    rw [← List.map_cons (f := fun _ => none), hplace]
    exact hrest

omit hsleep in
theorem collect_map_ok (as : List α) :
    collect (as.map fun a => some (.ok a)) = .done (as.map .ok) := by
  induction as with
  | nil => rfl
  | cons a as ih =>
    rw [List.map_cons, collect, ih]
    rfl

/-- Scripts that come to their end without a sleep do so side by side. -/
theorem reach_together (hrounds : rounds ≠ 0)
    (H : ∀ p ∈ ps, ∀ s, C s → ∃ a t, p.reach h s = some (a, t) ∧ Q a ∧ C t) (hs : C s) :
    ∃ (as : List α) (t : σ), as.length = ps.length ∧ (∀ a ∈ as, Q a) ∧ C t ∧
      (together rounds ps).reach h s = some (as.map .ok, t) := by
  have hturns : ps.length ≤ ps.length * (2 * rounds) := by
    exact Nat.le_mul_of_pos_right _ (by omega)
  obtain ⟨as, t, hlength, has, ht, hreach⟩ := reach_takeTurns hsleep 0 [] hturns H hs
  refine ⟨as, t, hlength, has, ht, ?_⟩
  simp only [List.nil_append, List.length_nil] at hreach
  rw [together, Agenda.start, reach_bind hreach, collect_map_ok]
  rfl

end Together

end TrustAnchor.Script
