import TrustAnchor.Proofs.History
import TrustAnchor.Proofs.Loop
import TrustAnchor.Proofs.Together

/-! Scripts that settle an object: when such a script ends well, its last call on the object has
shown the object as it should be. This is a matter of the script alone. It has to make a call
before it can end well, and has to make another one after each call that shows something else.
Several scripts may look after one object side by side: the one that makes the last call settles it
for all. -/

namespace TrustAnchor

namespace Script

variable {α β ε δ : Type}

/-- The script does not end well before it has made a call on the object. -/
def Owes (k : Kind) (name : String) : Script (Except ε α) → Prop
  | .done (.ok _) => False
  | .done (.error _) | .stop _ => True
  | .ask r next => r.On k name ∨ ∀ answer, r.Possible answer → (next answer).Owes k name

/-- After a call on the object, either it is as it should be or the script owes another call. -/
def Settles (k : Kind) (name : String) (φ : Option k.Object → Prop) : Script (Except ε α) → Prop
  | .done _ | .stop _ => True
  | .ask r next => ∀ answer, r.Possible answer →
    (r.On k name → r.Shows k φ answer ∨ (next answer).Owes k name) ∧ (next answer).Settles k name φ

variable {k : Kind} {name : String} {φ : Option k.Object → Prop} {p : Script (Except ε α)}
  {f : Except ε α → Script (Except δ β)}

theorem Owes.bind (H : p.Owes k name) (hfail : ∀ e, (f (.error e)).Owes k name) :
    (p >>= f).Owes k name := by
  induction p with
  | done result =>
    cases result with
    | ok a => exact H.elim
    | error e => exact hfail e
  | stop why => trivial
  | ask r next ih => exact H.imp_right fun H answer h => ih answer (H answer h)

theorem Settles.bind (H : p.Settles k name φ) (hfail : ∀ e, (f (.error e)).Owes k name)
    (K : ∀ result, (f result).Settles k name φ) : (p >>= f).Settles k name φ := by
  induction p with
  | done result => exact K result
  | stop why => trivial
  | ask r next ih =>
    intro answer h
    obtain ⟨hon, H⟩ := H answer h
    exact ⟨fun h => (hon h).imp_right fun howes => howes.bind hfail, ih answer H⟩

/-- A script that does not call an object cannot unsettle it. -/
theorem Asks.settles (H : p.Asks fun r => ¬ r.On k name) : p.Settles k name φ := by
  induction p with
  | done | stop => trivial
  | ask r next ih => exact fun answer h => ⟨fun hon => absurd hon H.1, ih answer (H.2 answer h)⟩

/-- A change of the result that leaves failures failures. -/
theorem settles_mapError {g : ε → δ} (H : p.Settles k name φ ∧ p.Owes k name) :
    (p >>= fun result => .done (result.mapError g)).Settles k name φ ∧
      (p >>= fun result => .done (result.mapError g)).Owes k name :=
  ⟨H.1.bind (fun _ => trivial) fun _ => trivial, H.2.bind fun _ => trivial⟩

section Runs

variable {s m t : Scene} {ps qs : List (Script (Except ε α))}

/-- The object has been shown as it should be, or one of the scripts owes a call. -/
def Settling (k : Kind) (name : String) (φ : Option k.Object → Prop)
    (ps : List (Script (Except ε α))) (past : History) : Prop :=
  past.LastCall k name (Request.Shows k φ) ∨ ∃ p ∈ ps, p.Owes k name

theorem Settling.outside (H : Settling k name φ ps s.past) (hout : Scene.Outside s t) :
    Settling k name φ ps t.past :=
  H.imp_left fun hlast => Scene.lastCall_stable hout hlast

theorem Settling.step {i : Nat} {r : Request} {next : Except String r.Answer → Script (Except ε α)}
    {answer : Except String r.Answer} {stores : Stores} (hp : ps[i]? = some (.ask r next))
    (hsettles : (ask r next).Settles k name φ) (hanswer : s.Answers r answer stores)
    (H : Settling k name φ ps s.past) :
    Settling k name φ (ps.set i (next answer)) (s.after hanswer).past := by
  have hnext : next answer ∈ ps.set i (next answer) :=
    List.mem_set (List.getElem?_eq_some_iff.1 hp).1 _
  by_cases hon : r.On k name
  · rcases (hsettles answer hanswer.possible).1 hon with hshows | howes
    · exact .inl (.inl ⟨hon, hshows⟩)
    · exact .inr ⟨_, hnext, howes⟩
  · rcases H with hlast | ⟨q, hq, howes⟩
    · exact .inl (.inr ⟨hon, hlast⟩)
    · obtain ⟨j, hj⟩ := List.mem_iff_getElem?.1 hq
      by_cases hij : i = j
      · subst hij
        cases hp.symm.trans hj
        exact .inr ⟨_, hnext, howes.resolve_left hon answer hanswer.possible⟩
      · refine .inr ⟨q, List.mem_iff_getElem?.2 ⟨j, ?_⟩, howes⟩
        rw [List.getElem?_set_ne hij, hj]

theorem Steps.settling (H : Steps Scene.Outside ps s qs t) (hps : ∀ p ∈ ps, p.Settles k name φ)
    (hs : Settling k name φ ps s.past) : Settling k name φ qs t.past := by
  induction H with
  | rest hout => exact hs.outside hout
  | step hp hout hanswer _ ih =>
    have hsettles := hps _ (List.mem_of_getElem? hp)
    refine ih (fun q hq => ?_) ((hs.outside hout).step hp hsettles hanswer)
    rcases List.mem_or_eq_of_mem_set hq with hq | rfl
    · exact hps q hq
    · exact (hsettles _ hanswer.possible).2

/-- The scripts have all ended well, so none of them owes anything. -/
theorem Settling.lastCall {past : History} (H : Settling k name φ ps past)
    (hdone : ∀ p ∈ ps, ∃ a, p = .done (.ok a)) : past.LastCall k name (Request.Shows k φ) := by
  refine H.resolve_right ?_
  rintro ⟨p, hp, howes⟩
  obtain ⟨a, rfl⟩ := hdone p hp
  exact howes

theorem Runs.settled {a : α} (H : p.Runs Scene.Outside s (.ok (.ok a)) t)
    (hsettles : p.Settles k name φ) (howes : p.Owes k name) :
    t.past.LastCall k name (Request.Shows k φ) := by
  refine (H.steps.settling ?_ (.inr ⟨p, List.mem_singleton_self p, howes⟩)).lastCall ?_
  · exact fun q hq => List.mem_singleton.1 hq ▸ hsettles
  · exact fun q hq => ⟨a, List.mem_singleton.1 hq⟩

/-- Scripts side by side settle an object if one of them does and no other unsettles it. -/
theorem Runs.together_settled {rounds : Nat} {outcomes : List (Except String (Except ε α))}
    (H : (Script.together rounds ps).Runs Scene.Outside s (.ok outcomes) t)
    (hok : ∀ o ∈ outcomes, ∃ a, o = .ok (.ok a)) (hsettles : ∀ p ∈ ps, p.Settles k name φ)
    (howes : ∃ p ∈ ps, p.Owes k name) : t.past.LastCall k name (Request.Shows k φ) := by
  refine (H.together.settling hsettles (.inr howes)).lastCall fun q hq => ?_
  obtain ⟨o, ho, rfl⟩ := List.mem_map.1 hq
  obtain ⟨a, rfl⟩ := hok o ho
  exact ⟨a, rfl⟩

end Runs

end Script

namespace Retry

open Script

variable {α ε : Type} {k : Kind} {name : String} {φ : Option k.Object → Prop} {s : Schedule}
  {operation : String} {horizon rounds attempt : Nat} {delay : Duration}

theorem attempts_settles {again : ε → Bool} {body : Nat → Script (Except ε α)}
    (H : ∀ n, (body n).Settles k name φ ∧ (body n).Owes k name) :
    (attempts s operation again body rounds attempt delay).Settles k name φ ∧
      (attempts s operation again body rounds attempt delay).Owes k name := by
  refine attempts_induction (C := fun p => p.Settles k name φ ∧ p.Owes k name)
    (fun _ => ⟨trivial, trivial⟩) (fun _ => ⟨trivial, trivial⟩) (fun hr hnext => ?_)
    fun {n f} hok hfail => ?_
  · exact ⟨fun answer _ => ⟨fun hon => absurd hon hr.not_on, (hnext answer).1⟩,
      .inr fun answer _ => (hnext answer).2⟩
  · refine ⟨(H n).1.bind (fun e => (hfail e).2) fun result => ?_,
      (H n).2.bind fun e => (hfail e).2⟩
    cases result with
    | ok a => rw [hok]; trivial
    | error e => exact (hfail e).1

theorem onConflict_settles {body : Nat → Script (Except Error α)}
    (H : ∀ n, (body n).Settles k name φ ∧ (body n).Owes k name) :
    (onConflict horizon s operation body).Settles k name φ ∧
      (onConflict horizon s operation body).Owes k name :=
  settles_mapError (attempts_settles H)

end Retry

end TrustAnchor
