import TrustAnchor.Proofs.Scene
import TrustAnchor.Script.Basic

/-! Runs of scripts among other writers, what they are made of, and what they keep. -/

namespace TrustAnchor

namespace Request

/-- If the request is a call, it is on an object of the set. -/
def Within (S : Kind → String → Prop) : Request → Prop
  | .store k c => S k c.name
  | _ => True

/-- The request writes nothing. -/
def ReadsOnly : Request → Prop
  | .store _ c => c.isWrite = false
  | _ => True

variable {S : Kind → String → Prop} {k : Kind} {name : String} {r : Request}

theorem Within.not_on (h : r.Within S) (hS : ¬ S k name) : ¬ r.On k name := by
  cases r with
  | store k' c =>
    rintro ⟨rfl, rfl⟩
    exact hS h
  | _ => exact id

end Request

namespace Script

variable {α β : Type} {R : Scene → Scene → Prop} {J : Scene → Prop} {P Q : Request → Prop}
  {s m t : Scene} {p : Script α} {f : α → Script β}

/-- A script can come from a scene to a result and another scene, when before each request, and at
the end, the surroundings move as `R` allows. -/
def Runs (R : Scene → Scene → Prop) : Script α → Scene → Except Stop α → Scene → Prop
  | .done a, s, result, t => result = .ok a ∧ R s t
  | .stop why, s, result, t => result = .error why ∧ R s t
  | .ask r next, s, result, t => ∃ m answer stores, R s m ∧ ∃ H : m.Answers r answer stores,
    (next answer).Runs R (m.after H) result t

/-- The result of an attempt is neither an error nor a stop. -/
def WentWell {ε : Type} (result : Except Stop (Except ε α)) : Prop := ∃ a, result = .ok (.ok a)

theorem not_wentWell_stop {ε : Type} (why : Stop) :
    ¬ WentWell (.error why : Except Stop (Except ε α)) := by
  rintro ⟨a, h⟩
  cases h

theorem not_wentWell_error {ε : Type} (e : ε) :
    ¬ WentWell (.ok (.error e) : Except Stop (Except ε α)) := by
  rintro ⟨a, h⟩
  cases h

instance {ε : Type} : (result : Except Stop (Except ε α)) → Decidable (WentWell result)
  | .ok (.ok a) => isTrue ⟨a, rfl⟩
  | .ok (.error e) => isFalse (not_wentWell_error e)
  | .error why => isFalse (not_wentWell_stop why)

theorem exists_of_wentWell {ε : Type} {answer : Except String (Except ε α)}
    (h : WentWell (answer.mapError Stop.panicked)) : ∃ a, answer = .ok (.ok a) := by
  obtain ⟨a, h⟩ := h
  cases answer with
  | error text => cases h
  | ok result =>
    cases h
    exact ⟨a, rfl⟩

namespace Runs

theorem request {r : Request} {result : Except Stop r.Answer}
    (H : (Script.request r).Runs R s result t) :
    ∃ m answer stores, R s m ∧ ∃ H : m.Answers r answer stores, R (m.after H) t ∧
      result = answer.mapError .panicked := by
  obtain ⟨m, answer, stores, hm, hanswer, H⟩ := H
  refine ⟨m, answer, stores, hm, hanswer, ?_⟩
  cases answer with
  | ok a => exact ⟨H.2, H.1⟩
  | error text => exact ⟨H.2, H.1⟩

variable [IsPreorder Scene R] {result : Except Stop α}

theorem after (H : p.Runs R s result m) (hR : R m t) : p.Runs R s result t := by
  induction p generalizing s with
  | done a => exact ⟨H.1, trans_of R H.2 hR⟩
  | stop why => exact ⟨H.1, trans_of R H.2 hR⟩
  | ask r next ih =>
    obtain ⟨m, answer, stores, hm, hanswer, H⟩ := H
    exact ⟨m, answer, stores, hm, hanswer, ih answer H⟩

theorem bind {result : Except Stop β} (H : (p >>= f).Runs R s result t) :
    (∃ why, result = .error why ∧ p.Runs R s (.error why) t) ∨
      ∃ a m, p.Runs R s (.ok a) m ∧ (f a).Runs R m result t := by
  induction p generalizing s with
  | done a => exact .inr ⟨a, s, ⟨rfl, refl_of R s⟩, H⟩
  | stop why => exact .inl ⟨why, H.1, rfl, H.2⟩
  | ask r next ih =>
    obtain ⟨m, answer, stores, hm, hanswer, H⟩ := H
    rcases ih answer H with ⟨why, hwhy, H⟩ | ⟨a, n, H, K⟩
    · exact .inl ⟨why, hwhy, m, answer, stores, hm, hanswer, H⟩
    · exact .inr ⟨a, n, ⟨m, answer, stores, hm, hanswer, H⟩, K⟩

theorem bind_ok {b : β} (H : (p >>= f).Runs R s (.ok b) t) :
    ∃ a m, p.Runs R s (.ok a) m ∧ (f a).Runs R m (.ok b) t := by
  rcases H.bind with ⟨why, hwhy, -⟩ | H
  · cases hwhy
  · exact H

variable {x : Attempt α} {g : α → Attempt β}

/-- How a sequence of attempts ends: with the first of them, or as the second. -/
theorem attempt {result : Except Stop (Except Error β)} (H : (x >>= g).run.Runs R s result t) :
    (∃ why, result = .error why ∧ x.run.Runs R s (.error why) t) ∨
      (∃ e, result = .ok (.error e) ∧ x.run.Runs R s (.ok (.error e)) t) ∨
      ∃ a m, x.run.Runs R s (.ok (.ok a)) m ∧ (g a).run.Runs R m result t := by
  rw [ExceptT.run_bind] at H
  rcases H.bind with H | ⟨answer, m, H, K⟩
  · exact .inl H
  · cases answer with
    | error e => exact .inr (.inl ⟨e, K.1, H.after K.2⟩)
    | ok a => exact .inr (.inr ⟨a, m, H, K⟩)

/-- If the first of two attempts does not end well, neither does the sequence, and that was it. -/
theorem attempt_cases {result : Except Stop (Except Error β)}
    (H : (x >>= g).run.Runs R s result t) :
    (¬ WentWell result ∧ ∃ result', ¬ WentWell result' ∧ x.run.Runs R s result' t) ∨
      ∃ a m, x.run.Runs R s (.ok (.ok a)) m ∧ (g a).run.Runs R m result t := by
  rcases H.attempt with ⟨why, rfl, hx⟩ | ⟨e, rfl, hx⟩ | H
  · exact .inl ⟨not_wentWell_stop why, .error why, not_wentWell_stop why, hx⟩
  · exact .inl ⟨not_wentWell_error e, .ok (.error e), not_wentWell_error e, hx⟩
  · exact .inr H

theorem attempt_ok {b : β} (H : (x >>= g).run.Runs R s (.ok (.ok b)) t) :
    ∃ a m, x.run.Runs R s (.ok (.ok a)) m ∧ (g a).run.Runs R m (.ok (.ok b)) t := by
  rcases H.attempt_cases with ⟨hresult, -⟩ | H
  · exact absurd ⟨b, rfl⟩ hresult
  · exact H

end Runs

/-- Every request of the script, whatever the answers, is of a certain sort. -/
def Asks (P : Request → Prop) : Script α → Prop
  | .done _ | .stop _ => True
  | .ask r next => P r ∧ ∀ answer, r.Possible answer → (next answer).Asks P

namespace Asks

theorem any (p : Script α) : p.Asks fun _ => True := by
  induction p with
  | done | stop => trivial
  | ask r next ih => exact ⟨trivial, fun answer _ => ih answer⟩

theorem mono (hPQ : ∀ r, P r → Q r) (H : p.Asks P) : p.Asks Q := by
  induction p with
  | done | stop => trivial
  | ask r next ih => exact ⟨hPQ r H.1, fun answer h => ih answer (H.2 answer h)⟩

theorem bind (H : p.Asks P) (K : ∀ a, (f a).Asks P) : (p >>= f).Asks P := by
  induction p with
  | done a => exact K a
  | stop why => trivial
  | ask r next ih => exact ⟨H.1, fun answer h => ih answer (H.2 answer h)⟩

theorem request {r : Request} (h : P r) : (Script.request r).Asks P := by
  refine ⟨h, fun answer _ => ?_⟩
  cases answer with
  | ok => trivial
  | error => trivial

theorem attempt {x : Attempt α} {g : α → Attempt β} (H : x.run.Asks P)
    (K : ∀ a, (g a).run.Asks P) : (x >>= g).run.Asks P := by
  rw [ExceptT.run_bind]
  refine H.bind fun answer => ?_
  cases answer with
  | ok a => exact K a
  | error e => trivial

end Asks

/-- The surroundings keep what holds of a scene. -/
def Stable (R : Scene → Scene → Prop) (J : Scene → Prop) : Prop := ∀ ⦃s t⦄, R s t → J s → J t

/-- What holds of a scene still holds after any run from it, however the run ends. -/
def Keeps (R : Scene → Scene → Prop) (J : Scene → Prop) (p : Script α) : Prop :=
  ∀ ⦃s result t⦄, J s → p.Runs R s result t → J t

/-- What holds of a scene still holds after any run from it that does not end well. -/
def KeepsFailing {ε : Type} (R : Scene → Scene → Prop) (J : Scene → Prop)
    (p : Script (Except ε α)) : Prop :=
  ∀ ⦃s result t⦄, J s → p.Runs R s result t → ¬ WentWell result → J t

/-- A script keeps what each of its requests keeps. -/
theorem Asks.keeps (H : p.Asks P) (hR : Stable R J)
    (hP : ∀ ⦃s r answer stores⦄ (h : s.Answers r answer stores), P r → J s → J (s.after h)) :
    p.Keeps R J := by
  intro s result t hs K
  induction p generalizing s with
  | done a => exact hR K.2 hs
  | stop why => exact hR K.2 hs
  | ask r next ih =>
    obtain ⟨m, answer, stores, hm, hanswer, K⟩ := K
    exact ih answer (H.2 answer hanswer.possible) (hP hanswer H.1 (hR hm hs)) K

namespace Keeps

theorem done (hR : Stable R J) (a : α) : (Script.done a).Keeps R J :=
  fun _ _ _ hs hrun => hR hrun.2 hs

theorem stop (hR : Stable R J) (why : Stop) : (Script.stop why : Script α).Keeps R J :=
  fun _ _ _ hs hrun => hR hrun.2 hs

variable [IsPreorder Scene R]

theorem bind (H : p.Keeps R J) (K : ∀ a, (f a).Keeps R J) : (p >>= f).Keeps R J := by
  intro s result t hs hrun
  rcases hrun.bind with ⟨why, -, hrun⟩ | ⟨a, m, hrun, hrest⟩
  · exact H hs hrun
  · exact K a (H hs hrun) hrest

theorem attempt {x : Attempt α} {g : α → Attempt β} (H : x.run.Keeps R J)
    (K : ∀ a, (g a).run.Keeps R J) : (x >>= g).run.Keeps R J := by
  intro s result t hs hrun
  rcases hrun.attempt with ⟨why, -, hrun⟩ | ⟨e, -, hrun⟩ | ⟨a, m, hrun, hrest⟩
  · exact H hs hrun
  · exact H hs hrun
  · exact K a (H hs hrun) hrest

end Keeps

end Script

end TrustAnchor
