import TrustAnchor.Script.Request

/-! A script is what the controller does, as a tree: a result, or a request together with what to do
for each answer. The surroundings are a handler, which answers one request at a time and keeps its
own state, so whatever interferes between two requests is up to the handler. -/

namespace TrustAnchor

/-- How a script can end without a result. -/
inductive Stop where
  /-- It broke off, with a text that says why. -/
  | panicked (text : String)
  /-- It was followed as far as was asked for and had not come to an end. -/
  | unfinished
  deriving DecidableEq, Repr

inductive Script (α : Type) where
  | done (a : α)
  | stop (why : Stop)
  /-- The answer to a request, or the text with which the surroundings broke off. -/
  | ask (r : Request) (next : Except String r.Answer → Script α)

namespace Script

variable {α β γ σ : Type}

protected def bind : Script α → (α → Script β) → Script β
  | .done a, f => f a
  | .stop why, _ => .stop why
  | .ask r next, f => .ask r fun answer => (next answer).bind f

instance : Monad Script where
  pure := .done
  bind := Script.bind

@[simp] theorem pure_eq (a : α) : (pure a : Script α) = .done a := rfl

@[simp] theorem done_bind (a : α) (f : α → Script β) : (Script.done a >>= f) = f a := rfl

@[simp] theorem stop_bind (why : Stop) (f : α → Script β) :
    ((Script.stop why : Script α) >>= f) = .stop why := rfl

@[simp] theorem ask_bind (r : Request) (next : Except String r.Answer → Script α)
    (f : α → Script β) : (Script.ask r next >>= f) = .ask r fun answer => next answer >>= f := rfl

theorem bind_done (p : Script α) : p >>= .done = p := by
  induction p with
  | done => rfl
  | stop => rfl
  | ask r next ih => simp [ih]

theorem bind_assoc (p : Script α) (f : α → Script β) (g : β → Script γ) :
    p >>= f >>= g = p >>= fun a => f a >>= g := by
  induction p with
  | done => rfl
  | stop => rfl
  | ask r next ih => simp [ih]

instance : LawfulMonad Script := .mk' Script bind_done (fun _ _ => rfl) bind_assoc

/-- Asks, and breaks off if the surroundings do. -/
def request (r : Request) : Script r.Answer :=
  .ask r fun
    | .ok a => .done a
    | .error text => .stop (.panicked text)

/-- A script that may end with an error. -/
abbrev Attempt (α : Type) := ExceptT Error Script α

def get (k : Kind) (name : String) : Attempt (Option k.Object) := request (.store k (.get name))

def create (k : Kind) (x : k.Object) : Attempt k.Object := request (.store k (.create x))

def replace (k : Kind) (x : k.Object) : Attempt k.Object := request (.store k (.replace x))

end Script

/-- Answers requests and keeps a state; it may also break off. -/
def Handler (σ : Type) := (r : Request) → σ → Except String r.Answer × σ

namespace Script

variable {α σ : Type}

/-- The result of a script among given surroundings, and the state that these are left in. -/
def run (h : Handler σ) : Script α → σ → Except Stop α × σ
  | .done a, s => (.ok a, s)
  | .stop why, s => (.error why, s)
  | .ask r next, s => (next (h r s).1).run h (h r s).2

@[simp] theorem run_done (h : Handler σ) (a : α) (s : σ) :
    (Script.done a).run h s = (.ok a, s) := rfl

@[simp] theorem run_stop (h : Handler σ) (why : Stop) (s : σ) :
    (Script.stop why : Script α).run h s = (.error why, s) := rfl

@[simp] theorem run_ask (h : Handler σ) (r : Request) (next : Except String r.Answer → Script α)
    (s : σ) : (Script.ask r next).run h s = (next (h r s).1).run h (h r s).2 := rfl

theorem run_bind (h : Handler σ) (p : Script α) (f : α → Script β) (s : σ) :
    (p >>= f).run h s =
      match p.run h s with
      | (.ok a, s) => (f a).run h s
      | (.error why, s) => (.error why, s) := by
  induction p generalizing s with
  | done => rfl
  | stop => rfl
  | ask r next ih => simp [ih]

end Script

end TrustAnchor
