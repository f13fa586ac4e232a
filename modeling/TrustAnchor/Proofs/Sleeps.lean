import TrustAnchor.Proofs.Interleaving

/-! Scripts that sleep only so often come to an end side by side: the turns that they are given
suffice. A turn that does not end its script uses up one of its sleeps, so no script takes more turns
than it has sleeps, and one for the end. Scripts side by side are given up as unfinished only if one
of them gives up by itself. -/

namespace TrustAnchor

/-- The request is not one to sleep. -/
def Request.Awake : Request → Prop
  | .sleep _ => False
  | _ => True

namespace Script

variable {α β σ : Type} {b b' spare : Nat} {p : Script α} {f : α → Script β} {Q : α → Prop}
  {Q' : β → Prop}

/-- The script is never given up as unfinished, whatever the answers, and any result that it has is
as `Q` says. -/
def Finishes (Q : α → Prop) : Script α → Prop
  | .done a => Q a
  | .stop why => why ≠ .unfinished
  | .ask _ next => ∀ answer, (next answer).Finishes Q

theorem Finishes.bind (H : p.Finishes Q) (K : ∀ a, Q a → (f a).Finishes Q') :
    (p >>= f).Finishes Q' := by
  induction p with
  | done a => exact K a H
  | stop why => exact H
  | ask r next ih => exact fun answer => ih answer (H answer)

theorem Finishes.not_unfinished {T : Moves σ} {s t : σ} {result : Except Stop α}
    (H : p.Finishes Q) (hrun : p.Follows T s result t) : result ≠ .error .unfinished := by
  induction p generalizing s with
  | done a =>
    rw [hrun.1]
    nofun
  | stop why =>
    rw [hrun.1]
    exact fun h => H (Except.error.inj h)
  | ask r next ih =>
    obtain ⟨answer, m, -, hrun⟩ := hrun
    exact ih answer (H answer) hrun

theorem Finishes.mono {P : α → Prop} (H : p.Finishes Q) (h : ∀ a, Q a → P a) : p.Finishes P := by
  induction p with
  | done a => exact h a H
  | stop why => exact H
  | ask r next ih => exact fun answer => ih answer (H answer)

/-- A result is as the script promises. -/
theorem Finishes.result {T : Moves σ} {s t : σ} {a : α} (H : p.Finishes Q)
    (hrun : p.Follows T s (.ok a) t) : Q a := by
  induction p generalizing s with
  | done =>
    cases hrun.1
    exact H
  | stop => cases hrun.1
  | ask r next ih =>
    obtain ⟨answer, m, -, hrun⟩ := hrun
    exact ih answer (H answer) hrun

/-- The script sleeps no more often than that, whatever the answers, and any end that it comes to is
as `W` says. -/
def Sleeps (W : Except Stop α → Prop) : Script α → Nat → Prop
  | .done a, _ => W (.ok a)
  | .stop why, _ => W (.error why)
  | .ask (.sleep _) next, b => 0 < b ∧ ∀ answer, (next answer).Sleeps W (b - 1)
  | .ask _ next, b => ∀ answer, (next answer).Sleeps W b

variable {W : Except Stop α → Prop} {V : Except Stop β → Prop}

namespace Sleeps

theorem mono (H : p.Sleeps W b) (h : b ≤ b') : p.Sleeps W b' := by
  induction p generalizing b b' with
  | done | stop => exact H
  | ask r next ih =>
    cases r with
    | sleep d =>
      obtain ⟨hpos, H⟩ := H
      exact ⟨Nat.lt_of_lt_of_le hpos h, fun answer => ih answer (H answer) (Nat.sub_le_sub_right h 1)⟩
    | _ => exact fun answer => ih answer (H answer) h

theorem weaken {W' : Except Stop α → Prop} (H : p.Sleeps W b) (h : ∀ result, W result → W' result) :
    p.Sleeps W' b := by
  induction p generalizing b with
  | done | stop => exact h _ H
  | ask r next ih =>
    cases r with
    | sleep d => exact ⟨H.1, fun answer => ih answer (H.2 answer)⟩
    | _ => exact fun answer => ih answer (H answer)

theorem bind (H : p.Sleeps W b) (hstop : ∀ why, W (.error why) → V (.error why))
    (K : ∀ a, (f a).Sleeps V b') : (p >>= f).Sleeps V (b + b') := by
  induction p generalizing b with
  | done a => exact (K a).mono (Nat.le_add_left b' b)
  | stop why => exact hstop why H
  | ask r next ih =>
    cases r with
    | sleep d =>
      obtain ⟨hpos, H⟩ := H
      refine ⟨Nat.add_pos_left hpos b', fun answer => ?_⟩
      rw [Nat.sub_add_comm hpos]
      exact ih answer (H answer)
    | _ => exact fun answer => ih answer (H answer)

end Sleeps

/-- What is left at the end of a turn: a result, or a script that has slept since; if it was
interrupted, it has slept as often as it was allowed to. -/
def Turn.Fits (W : Except Stop α → Prop) (b spare : Nat) : Turn α → Prop
  | .ended result => W result
  | .asleep _ rest => 0 < b ∧ rest.Sleeps W (b - 1)
  | .interrupted rest => spare ≤ b ∧ rest.Sleeps W (b - spare)

theorem Sleeps.takeTurn {next : Turn α → Script β} (H : p.Sleeps W b)
    (hnext : ∀ turn : Turn α, turn.Fits W b spare → (next turn).Finishes Q') :
    (takeTurn spare p next).Finishes Q' := by
  induction p generalizing b spare with
  | done a => exact hnext (.ended (.ok a)) H
  | stop why => exact hnext (.ended (.error why)) H
  | ask r rest ih =>
    cases r with
    | sleep d =>
      rw [Script.takeTurn]
      split
      · rename_i hspare
        subst hspare
        exact hnext (.interrupted (.ask (.sleep d) rest)) ⟨Nat.zero_le b, H⟩
      · rename_i hspare
        obtain ⟨hpos, H⟩ := H
        intro answer
        split
        · refine ih answer (H answer) fun turn hturn => hnext turn ?_
          cases turn with
          | ended result => exact hturn
          | asleep d' rest' =>
            obtain ⟨h, hrest⟩ := hturn
            exact ⟨hpos, hrest.mono (Nat.sub_le (b - 1) 1)⟩
          | interrupted rest' =>
            obtain ⟨h, hrest⟩ := hturn
            refine ⟨by omega, hrest.mono ?_⟩
            omega
        · exact hnext (.asleep d (rest answer)) ⟨hpos, H answer⟩
    | _ => exact fun answer => ih answer (H answer) hnext

theorem share_pos : 0 < share := by decide

theorem share_pred_pos : 0 < share - 1 := by decide

/-- The scripts that wait need no more turns than that. -/
def Within (W : Except Stop α → Prop) : List (Waiting α) → Nat → Prop
  | [], _ => True
  | w :: ws, turns =>
    0 < w.spare ∧ ∃ b rest, w.rest.Sleeps W b ∧ b + 1 + rest ≤ turns ∧ Within W ws rest

namespace Within

variable {ws vs : List (Waiting α)} {turns : Nat}

theorem perm (h : ws.Perm vs) (H : Within W ws turns) : Within W vs turns := by
  induction h generalizing turns with
  | nil => exact H
  | cons w _ ih =>
    obtain ⟨hspare, b, rest, hsleeps, hle, H⟩ := H
    exact ⟨hspare, b, rest, hsleeps, hle, ih H⟩
  | swap v w ws =>
    obtain ⟨hspare, b, rest, hsleeps, hle, hspare', b', rest', hsleeps', hle', H⟩ := H
    exact ⟨hspare', b', b + 1 + rest', hsleeps', by omega, hspare, b, rest', hsleeps,
      Nat.le_refl _, H⟩
  | trans _ _ ih ih' => exact ih' (ih H)

theorem mono {more : Nat} (H : Within W ws turns) (h : turns ≤ more) : Within W ws more := by
  cases ws with
  | nil => trivial
  | cons w ws =>
    obtain ⟨hspare, b, rest, hsleeps, hle, H⟩ := H
    exact ⟨hspare, b, rest, hsleeps, Nat.le_trans hle h, H⟩

theorem of_share {b : Nat} (H : ∀ w ∈ ws, 0 < w.spare ∧ w.rest.Sleeps W b)
    (h : ws.length * (b + 1) ≤ turns) : Within W ws turns := by
  induction ws generalizing turns with
  | nil => trivial
  | cons w ws ih =>
    obtain ⟨⟨hspare, hsleeps⟩, hrest⟩ := List.forall_mem_cons.1 H
    rw [List.length_cons, Nat.succ_mul] at h
    exact ⟨hspare, b, ws.length * (b + 1), hsleeps, by omega, ih hrest (Nat.le_refl _)⟩

end Within

/-- Every script has come to a result of its own or waits for its turn. -/
structure Accounts (W : Except Stop α → Prop) (ws : List (Waiting α))
    (results : List (Option (Except Stop α))) : Prop where
  waits {i : Nat} : results[i]? = some none → ∃ w ∈ ws, w.place = i
  ended {i : Nat} {result : Except Stop α} :
    results[i]? = some (some result) → W result

namespace Accounts

variable {ws vs : List (Waiting α)} {w v : Waiting α} {results : List (Option (Except Stop α))}

theorem perm (H : Accounts W ws results) (h : ws.Perm vs) : Accounts W vs results where
  waits hi := by
    obtain ⟨w, hw, hplace⟩ := H.waits hi
    exact ⟨w, h.mem_iff.1 hw, hplace⟩
  ended := H.ended

theorem wait (H : Accounts W (w :: ws) results) (hplace : v.place = w.place) :
    Accounts W (v :: ws) results where
  waits hi := by
    obtain ⟨u, hu, hui⟩ := H.waits hi
    rcases List.mem_cons.1 hu with rfl | hu
    · exact ⟨v, List.mem_cons_self, hplace.trans hui⟩
    · exact ⟨u, List.mem_cons_of_mem v hu, hui⟩
  ended := H.ended

theorem finish (H : Accounts W (w :: ws) results) {result : Except Stop α}
    (hresult : W result) :
    Accounts W ws (results.set w.place (some result)) where
  waits {i} hi := by
    by_cases hne : w.place = i
    · subst hne
      rw [List.getElem?_set_self'] at hi
      cases hopen : results[w.place]? with
      | none =>
        rw [hopen] at hi
        cases hi
      | some r =>
        rw [hopen] at hi
        cases hi
    · rw [List.getElem?_set_ne hne] at hi
      obtain ⟨u, hu, hui⟩ := H.waits hi
      rcases List.mem_cons.1 hu with rfl | hu
      · exact absurd hui hne
      · exact ⟨u, hu, hui⟩
  ended {i r} hi := by
    by_cases hne : w.place = i
    · subst hne
      rw [List.getElem?_set_self'] at hi
      cases hopen : results[w.place]? with
      | none =>
        rw [hopen] at hi
        cases hi
      | some r' =>
        rw [hopen] at hi
        cases hi
        exact hresult
    · rw [List.getElem?_set_ne hne] at hi
      exact H.ended hi

end Accounts

theorem collect_finishes {results : List (Option (Except Stop α))}
    (H : ∀ r ∈ results, ∃ result, r = some result ∧ result ≠ .error .unfinished) :
    (collect results).Finishes fun _ => True := by
  induction results with
  | nil => trivial
  | cons head results ih =>
    obtain ⟨⟨result, rfl, hresult⟩, hrest⟩ := List.forall_mem_cons.1 H
    match result with
    | .ok a => exact (ih hrest).bind fun _ _ => trivial
    | .error (.panicked text) => exact (ih hrest).bind fun _ _ => trivial
    | .error .unfinished => exact absurd rfl hresult

theorem Agenda.waiting_of_next?_eq_none {agenda : Agenda α} (h : agenda.next? = none) :
    agenda.waiting = [] := by
  unfold next? at h
  split at h <;> simp_all [waiting]

theorem takeTurns_finishes {turns : Nat} {agenda : Agenda α}
    {results : List (Option (Except Stop α))} (hwithin : Within W agenda.waiting turns)
    (haccounts : Accounts W agenda.waiting results) :
    (takeTurns turns agenda results).Finishes (Accounts W []) := by
  induction turns generalizing agenda results with
  | zero =>
    rw [takeTurns]
    split
    · rename_i hnext
      rwa [Agenda.waiting_of_next?_eq_none hnext] at haccounts
    · rename_i hnext
      obtain ⟨-, b, rest, -, hle, -⟩ := hwithin.perm (Agenda.next?_perm hnext)
      omega
  | succ turns ih =>
    rw [takeTurns]
    split
    · rename_i hnext
      rwa [Agenda.waiting_of_next?_eq_none hnext] at haccounts
    · rename_i w agenda' hnext
      have hperm := Agenda.next?_perm hnext
      obtain ⟨hspare, b, rest, hsleeps, hle, hwithin⟩ := hwithin.perm hperm
      have haccounts := haccounts.perm hperm
      refine hsleeps.takeTurn fun turn hturn => ?_
      cases turn with
      | ended result => exact ih (hwithin.mono (by omega)) (haccounts.finish hturn)
      | asleep d p =>
        obtain ⟨hpos, hsleeps⟩ := hturn
        have hfell := (Agenda.fallAsleep_perm agenda' w.place d p).symm
        refine ih (.perm hfell ⟨share_pred_pos, b - 1, rest, hsleeps, by omega, hwithin⟩) ?_
        exact (haccounts.wait (v := { place := w.place, spare := share - 1, rest := p }) rfl).perm
          hfell
      | interrupted p =>
        obtain ⟨hslept, hsleeps⟩ := hturn
        have hstopped := (Agenda.interrupt_perm agenda' w.place p).symm
        refine ih (.perm hstopped ⟨share_pos, b - w.spare, rest, hsleeps, by omega, hwithin⟩) ?_
        exact (haccounts.wait (v := { place := w.place, spare := share, rest := p }) rfl).perm
          hstopped

/-- Scripts side by side that sleep less often than is allowed for all come to an end. -/
theorem takeTurns_start {rounds : Nat} {ps : List (Script α)} (h : b < 2 * rounds)
    (H : ∀ p ∈ ps, p.Sleeps W b) :
    (takeTurns (ps.length * (2 * rounds)) (.start ps) (ps.map fun _ => none)).Finishes
      fun final => ∀ r ∈ final, ∃ result, r = some result ∧ W result := by
  have hshare : ∀ w ∈ (Agenda.start ps).waiting, 0 < w.spare ∧ w.rest.Sleeps W b := by
    intro w hw
    rw [Agenda.waiting_start] at hw
    obtain ⟨⟨rest, place⟩, hmem, rfl⟩ := List.mem_map.1 hw
    exact ⟨share_pos, H rest (List.fst_mem_of_mem_zipIdx hmem)⟩
  have hlength : (Agenda.start ps).waiting.length = ps.length := by
    rw [Agenda.waiting_start, List.length_map, List.length_zipIdx]
  have hwithin : Within W (Agenda.start ps).waiting (ps.length * (2 * rounds)) := by
    refine .of_share hshare ?_
    rw [hlength]
    exact Nat.mul_le_mul_left _ h
  have haccounts : Accounts W (Agenda.start ps).waiting (ps.map fun _ => none) := by
    refine ⟨fun {i} hi => ?_, fun {i result} hi => ?_⟩
    · rw [Agenda.waiting_start]
      rw [List.getElem?_map] at hi
      cases hp : ps[i]? with
      | none =>
        rw [hp] at hi
        cases hi
      | some p =>
        exact ⟨{ place := i, spare := share, rest := p },
          List.mem_map.2 ⟨(p, i), List.mem_zipIdx_iff_getElem?.2 hp, rfl⟩, rfl⟩
    · obtain ⟨_, -, h⟩ := List.mem_map.1 (List.mem_of_getElem? hi)
      cases h
  refine (takeTurns_finishes hwithin haccounts).mono fun final hfinal r hr => ?_
  obtain ⟨i, hi, rfl⟩ := List.mem_iff_getElem.1 hr
  have hresult := List.getElem?_eq_getElem hi
  cases hr : final[i] with
  | none =>
    rw [hr] at hresult
    obtain ⟨w, hw, -⟩ := hfinal.waits hresult
    exact absurd hw List.not_mem_nil
  | some result =>
    rw [hr] at hresult
    exact ⟨result, rfl, hfinal.ended hresult⟩

/-- Scripts side by side that sleep less often than is allowed for are unfinished only because one
of them is. -/
theorem Follows.together_unfinished {T : Moves σ} {s t : σ} {rounds : Nat} {ps : List (Script α)}
    (h : b < 2 * rounds) (H : ∀ p ∈ ps, p.Sleeps (fun _ => True) b)
    (hrun : (Script.together rounds ps).Follows T s (.error .unfinished) t) :
    ∃ qs, Interleaves T ps s qs t ∧ .stop .unfinished ∈ qs := by
  have hfinishes := takeTurns_start h H
  rcases hrun.bind with ⟨why, hwhy, hturns⟩ | ⟨final, m, hturns, hcollect⟩
  · cases hwhy
    exact absurd rfl (hfinishes.not_unfinished hturns)
  · obtain ⟨qs, hsteps, ⟨final', ws, hok, hcovers, -⟩ | hstop⟩ := hturns.takeTurns (.start ps)
    case inr => cases hstop
    cases hok
    have hsome := hfinishes.result hturns
    have hm : t = m := by
      rcases collect_cases final with ⟨outcomes, hdone, -⟩ | hstop
      · rw [hdone] at hcollect
        exact hcollect.2
      · rw [hstop] at hcollect
        exact hcollect.2
    subst hm
    -- If every script had a result of its own, all results would have been collected.
    by_contra hnone
    refine absurd rfl ((collect_finishes fun r hr => ?_).not_unfinished hcollect)
    obtain ⟨result, rfl, -⟩ := hsome r hr
    refine ⟨result, rfl, ?_⟩
    rintro rfl
    obtain ⟨i, hi⟩ := List.mem_iff_getElem?.1 hr
    exact hnone ⟨qs, hsteps, List.mem_of_getElem? (hcovers.ended hi)⟩

end Script

end TrustAnchor
