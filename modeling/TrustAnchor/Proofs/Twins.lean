import TrustAnchor.Proofs.Conclusion
import TrustAnchor.Proofs.Retouching

/-! Scripts that differ only in what was replaced. Twins make the same requests up to what was
replaced, as long as they get the same answers up to what was replaced, and they come to the same
result in the same sense. A script in whose requests nothing is ever replaced is its own twin. -/

namespace TrustAnchor

open Script (Attempt)

namespace Script

variable {α β γ δ : Type} {τ : Retouching}

/-- The second script does with what was replaced as the first one does, and its result is what `g`
makes of the first one's. -/
inductive Twins (τ : Retouching) (g : α → β) : Script α → Script β → Prop
  | done {a : α} {b : β} : b = g a → Twins τ g (.done a) (.done b)
  | stop (why : Stop) : Twins τ g (.stop why) (.stop why)
  | ask {r : Request} {next : Except String r.Answer → Script α}
    {next' : Except String (τ.request r).Answer → Script β} :
    (∀ answer, r.Possible answer → Twins τ g (next answer) (next' (τ.answer r answer))) →
    Twins τ g (.ask r next) (.ask (τ.request r) next')

namespace Twins

variable {g : α → β} {g' : γ → δ} {p : Script α} {q : Script β}

theorem bind {f : α → Script γ} {f' : β → Script δ} (H : p.Twins τ g q)
    (K : ∀ a, (f a).Twins τ g' (f' (g a))) : (p >>= f).Twins τ g' (q >>= f') := by
  induction H with
  | done h =>
    subst h
    exact K _
  | stop why => exact .stop why
  | ask _ ih => exact .ask ih

theorem request (r : Request) :
    (Script.request r).Twins τ (τ.reply r) (Script.request (τ.request r)) := by
  refine .ask fun answer _ => ?_
  cases answer with
  | ok a => exact .done rfl
  | error text => exact .stop _

theorem attempt {x : Attempt α} {y : Attempt β} {f : α → Attempt γ} {f' : β → Attempt δ}
    (H : x.run.Twins τ (Except.map g) y.run)
    (K : ∀ a, (f a).run.Twins τ (Except.map g') (f' (g a)).run) :
    (x >>= f).run.Twins τ (Except.map g') (y >>= f').run := by
  rw [ExceptT.run_bind, ExceptT.run_bind]
  refine H.bind fun result => ?_
  cases result with
  | ok a => exact K a
  | error e => exact .done rfl

end Twins

/-- Nothing is replaced in the requests of the script, nor in their answers. -/
theorem Asks.twins {p : Script α} (H : p.Asks Request.Public) : p.Twins τ id p := by
  induction p with
  | done a => exact .done rfl
  | stop why => exact .stop why
  | ask r next ih =>
    obtain ⟨hpublic, H⟩ := H
    have same {answer answer' : Except String r.Answer} (h : r.Possible answer)
        (heq : answer' = answer) : (next answer).Twins τ id (next answer') :=
      heq ▸ ih answer (H answer h)
    cases r with
    | store k c =>
      cases k with
      | secret => exact hpublic.elim
      | webhook kind =>
        cases c with
        | get name =>
          refine .ask fun answer h => same h ?_
          show answer.map (Except.map (Option.map id)) = answer
          rw [Option.map_id, Except.map_id, Except.map_id, id]
        | create x | replace x =>
          refine .ask fun answer h => same h ?_
          show answer.map (Except.map id) = answer
          rw [Except.map_id, Except.map_id, id]
    | generate start => exact hpublic.elim
    | now | chance | report setback | sleep d =>
      exact .ask fun answer h => same h (congrFun Except.map_id answer)

theorem Twins.idle {r : Request} {g : α → β} {f : r.Answer → Script α} {f' : r.Answer → Script β}
    (hr : r.Idle) (hf : ∀ a, (f a).Twins τ g (f' a)) :
    (Script.request r >>= f).Twins τ g (Script.request r >>= f') :=
  (Asks.request hr.isPublic).twins.bind hf

end Script

namespace Retry

open Script

variable {α ε : Type} {τ : Retouching} {s : Schedule} {operation : String} {again : ε → Bool}
  {body body' : Nat → Script (Except ε α)} {horizon rounds attempt : Nat} {delay : Duration}

theorem checked_twins {d : Except Duration.ConversionFault Duration}
    {f f' : Duration → Script α} (hf : ∀ d, (f d).Twins τ id (f' d)) :
    (checked d >>= f).Twins τ id (checked d >>= f') := by
  cases d with
  | ok d => exact hf d
  | error fault => exact .stop _

/-- Between two attempts nothing is replaced. -/
theorem attempts_twins (H : ∀ n, (body n).Twins τ id (body' n)) :
    (attempts s operation again body rounds attempt delay).Twins τ id
      (attempts s operation again body' rounds attempt delay) := by
  induction rounds generalizing attempt delay with
  | zero => exact .stop _
  | succ rounds ih =>
    rw [attempts, attempts]
    refine (H attempt).bind fun result => ?_
    cases result with
    | ok a => exact .done rfl
    | error e =>
      dsimp only [id]
      split
      · exact .done rfl
      · split
        · exact .idle trivial fun _ => .done rfl
        · refine .idle trivial fun u => checked_twins fun pause => ?_
          refine .idle trivial fun _ => .idle trivial fun _ => checked_twins fun delay => ?_
          exact ih

theorem onConflict_twins {body body' : Nat → Script (Except Error α)}
    (H : ∀ n, (body n).Twins τ id (body' n)) :
    (onConflict horizon s operation body).Twins τ id (onConflict horizon s operation body') :=
  (attempts_twins H).bind fun _ => .done rfl

end Retry

def Plan.map {k : Kind} {β : Type} (f : k.Object → k.Object) : Plan k β → Plan k β
  | .finish result => .finish result
  | .write x b => .write (f x) b

namespace Amendment

variable {k : Kind} {name : String} {β : Type} {τ : Retouching} {A B : Amendment k name β}

theorem put_twins {found : Option k.Object} {x : k.Object} :
    (put k found x).run.Twins τ (Except.map (τ.object k))
      (put k (found.map (τ.object k)) (τ.object k x)).run := by
  cases found with
  | none => exact .request (.store k (.create x))
  | some y => exact .request (.store k (.replace x))

/-- Attempts are twins if their plans are, for all that can be found under the name. -/
theorem attempt_twins
    (H : ∀ found : Option k.Object, (∀ x ∈ found, Resource.anyName x = name) →
      B.plan (found.map (τ.object k)) = (A.plan found).map (τ.object k)) :
    A.attempt.run.Twins τ id B.attempt.run := by
  refine .ask fun answer h => ?_
  match answer with
  | .error text => exact .stop _
  | .ok (.error e) => exact .done rfl
  | .ok (.ok found) =>
    have hplan := H found (by rintro x rfl; exact h)
    show (act found (A.plan found)).run.Twins τ id
      (act (found.map (τ.object k)) (B.plan (found.map (τ.object k)))).run
    rw [hplan]
    cases A.plan found with
    | finish result => exact .done rfl
    | write x b =>
      rw [← Except.map_id]
      exact put_twins.attempt fun _ => .done rfl

end Amendment

namespace Rotation

theorem propagate_twins {horizon : Nat} {targets : List Target} {bundle : Bytes} {s : Schedule}
    {τ : Retouching} : (propagate horizon targets bundle s).run.Twins τ (Except.map id)
      (propagate horizon targets bundle s).run := by
  rw [Except.map_id]
  exact propagate_public.twins

end Rotation

end TrustAnchor
