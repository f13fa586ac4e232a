import TrustAnchor.Proofs.Conclusion
import TrustAnchor.Proofs.Trials

/-! The three errands of a pass: storing an authority, emptying a secret, and bringing a bundle to a
target. Each is a loop of attempts that read an object once and write it at most once. A write that
goes well ends the loop, so there is at most one, and the result tells truly whether there was. -/

namespace TrustAnchor

open Script (Attempt WentWell)

/-- The way to write what was found: what is not there has to be created. -/
def Verb.toWrite {α : Type} : Option α → Verb
  | none => .create
  | some _ => .replace

namespace Exchange

/-- The way in which an object was written, if the exchange is a write that went well. -/
def write? : Exchange → Option Verb
  | ⟨.store k c, answer⟩ => if (Request.store k c).Wrote answer then some c.verb else none
  | _ => none

theorem write?_of_idle {x : Exchange} (h : x.Idle) : x.write? = none := by
  obtain ⟨r, answer⟩ := x
  cases r with
  | store => exact h.elim
  | _ => rfl

variable {k : Kind} {name : String}

/-- A read of an object. -/
def read (k : Kind) (name : String) (answer : Except String (Except Error (Option k.Object))) :
    Exchange := ⟨.store k (.get name), answer⟩

/-- A write of an object in place of what was found. -/
def put (k : Kind) (found : Option k.Object) (x : k.Object)
    (answer : Except String (Except Error k.Object)) : Exchange :=
  match found with
  | none => ⟨.store k (.create x), answer⟩
  | some _ => ⟨.store k (.replace x), answer⟩

theorem write?_read {answer : Except String (Except Error (Option k.Object))} :
    (read k name answer).write? = none := by
  rw [read, write?]
  exact if_neg (Request.ReadsOnly.not_wrote (r := .store k (.get name)) rfl)

variable {found : Option k.Object} {x y : k.Object}

theorem write?_put_ok : (put k found x (.ok (.ok y))).write? = some (.toWrite found) := by
  cases found <;> rfl

theorem write?_put_error {e : Error} : (put k found x (.ok (.error e))).write? = none := by
  cases found <;> rfl

theorem write?_put_panic {text : String} : (put k found x (.error text)).write? = none := by
  cases found <;> rfl

/-- What was written can be seen. -/
theorem shows_put {φ : Option k.Object → Prop} (hφ : ∀ n, φ (some (Resource.withVersion x n)))
    (h : (put k found x (.ok (.ok y))).Possible) :
    (put k found x (.ok (.ok y))).request.Shows k φ (put k found x (.ok (.ok y))).answer := by
  cases found with
  | none =>
    obtain ⟨n, rfl⟩ := h
    exact .intro rfl (hφ n)
  | some z =>
    obtain ⟨n, rfl⟩ := h
    exact .intro rfl (hφ n)

end Exchange

namespace Amendment

variable {k : Kind} {name : String} {β : Type}

/-- A call that fails makes the attempt fail. -/
inductive Fails {γ : Type} : Except String (Except Error γ) → Except Stop (Except Error β) → Prop
  | error {e} : Fails (.ok (.error e)) (.ok (.error e))
  | panic {text} : Fails (.error text) (.error (.panicked text))

theorem Fails.not_wentWell {γ : Type} {answer : Except String (Except Error γ)}
    {result : Except Stop (Except Error β)} (H : Fails answer result) : ¬ WentWell result := by
  cases H with
  | error => exact Script.not_wentWell_error _
  | panic => exact Script.not_wentWell_stop _

/-- How an attempt goes: it reads, and may write what it has read. -/
inductive Course (A : Amendment k name β) :
    List Exchange → Except Stop (Except Error β) → Prop
  | unread {answer result} : Fails answer result → Course A [.read k name answer] result
  | finished {found result} : A.plan found = .finish result →
    Course A [.read k name (.ok (.ok found))] (.ok result)
  | unwritten {found x b answer result} : A.plan found = .write x b → Fails answer result →
    Course A [.read k name (.ok (.ok found)), .put k found x answer] result
  | written {found x b y} : A.plan found = .write x b →
    Course A [.read k name (.ok (.ok found)), .put k found x (.ok (.ok y))] (.ok (.ok b))

variable {A : Amendment k name β} {es : List Exchange} {result : Except Stop (Except Error β)}

private theorem put_trace {found : Option k.Object} {x : k.Object}
    {result : Except Stop (Except Error k.Object)} (H : (put k found x).run.Trace es result) :
    ∃ answer, es = [.put k found x answer] ∧ result = answer.mapError .panicked := by
  cases found with
  | none =>
    obtain ⟨answer, rest, rfl, H⟩ := H
    cases answer with
    | ok a =>
      obtain ⟨rfl, rfl⟩ := H
      exact ⟨_, rfl, rfl⟩
    | error text =>
      obtain ⟨rfl, rfl⟩ := H
      exact ⟨_, rfl, rfl⟩
  | some y =>
    obtain ⟨answer, rest, rfl, H⟩ := H
    cases answer with
    | ok a =>
      obtain ⟨rfl, rfl⟩ := H
      exact ⟨_, rfl, rfl⟩
    | error text =>
      obtain ⟨rfl, rfl⟩ := H
      exact ⟨_, rfl, rfl⟩

theorem attempt_course (H : A.attempt.run.Trace es result) : A.Course es result := by
  obtain ⟨answer, rest, rfl, H⟩ := H
  match answer with
  | .error text =>
    obtain ⟨rfl, rfl⟩ := H
    exact .unread .panic
  | .ok (.error e) =>
    obtain ⟨rfl, rfl⟩ := H
    exact .unread .error
  | .ok (.ok found) =>
    have H : (act found (A.plan found)).run.Trace rest result := H
    cases hplan : A.plan found with
    | finish answer =>
      rw [hplan] at H
      obtain ⟨rfl, rfl⟩ := H
      exact .finished hplan
    | write x b =>
      rw [hplan, act, ExceptT.run_bind] at H
      rcases H.bind with ⟨why, rfl, hput⟩ | ⟨written, first, rest, rfl, hput, hend⟩
      · obtain ⟨answer, rfl, hanswer⟩ := put_trace hput
        cases answer with
        | ok a => cases hanswer
        | error text =>
          cases hanswer
          exact .unwritten hplan .panic
      · obtain ⟨answer, rfl, hanswer⟩ := put_trace hput
        cases answer with
        | error text => cases hanswer
        | ok a =>
          cases hanswer
          cases written with
          | error e =>
            obtain ⟨rfl, rfl⟩ := hend
            exact .unwritten hplan .error
          | ok y =>
            obtain ⟨rfl, rfl⟩ := hend
            exact .written hplan

/-- One read of the object, and at most one write of it after that. -/
def Once (k : Kind) (name : String) (es : List Exchange) : Prop :=
  ∃ answer, es = [.read k name answer] ∨
    ∃ c answer', c.isWrite = true ∧ c.name = name ∧
      es = [.read k name answer, ⟨.store k c, answer'⟩]

theorem Course.once (H : A.Course es result) (hpossible : ∀ x ∈ es, x.Possible) :
    Once k name es := by
  have written {found : Option k.Object} {x : k.Object} {b : β}
      {answer : Except String (Except Error k.Object)} (hplan : A.plan found = .write x b)
      (h : (Exchange.read k name (.ok (.ok found))).Possible) :
      Once k name [.read k name (.ok (.ok found)), .put k found x answer] := by
    have hname := A.anyName_of_possible hplan h
    cases found with
    | none => exact ⟨_, .inr ⟨.create x, answer, rfl, hname, rfl⟩⟩
    | some z => exact ⟨_, .inr ⟨.replace x, answer, rfl, hname, rfl⟩⟩
  cases H with
  | unread => exact ⟨_, .inl rfl⟩
  | finished => exact ⟨_, .inl rfl⟩
  | unwritten hplan => exact written hplan (hpossible _ List.mem_cons_self)
  | written hplan => exact written hplan (hpossible _ List.mem_cons_self)

end Amendment

/-! ## Results that tell the truth about writing -/

section Honest

variable {β : Type}

/-- How the object was written, if a result says that it was. -/
def told (verb : β → Option Verb) : Except Stop (Except Error β) → Option Verb
  | .ok (.ok b) => verb b
  | .ok (.error _) | .error _ => none

/-- No object was written, or the last exchange did it, and the result tells so; if it is a good
result, the last exchange shows the object as it should be. -/
inductive Honest (k : Kind) (φ : Option k.Object → Prop) (verb : β → Option Verb) :
    List Exchange → Except Stop (Except Error β) → Prop
  | failed {es result} : ¬ WentWell result → (∀ x ∈ es, x.write? = none) →
    Honest k φ verb es result
  | well {es x b} : (∀ y ∈ es, y.write? = none) → x.write? = verb b →
    x.request.Shows k φ x.answer → Honest k φ verb (es ++ [x]) (.ok (.ok b))

variable {k : Kind} {φ : Option k.Object → Prop} {verb : β → Option Verb} {es : List Exchange}
  {result : Except Stop (Except Error β)}

namespace Honest

theorem of_failed (H : Honest k φ verb es result) (hresult : ¬ WentWell result) :
    ∀ x ∈ es, x.write? = none := by
  cases H with
  | failed _ hquiet => exact hquiet
  | well => exact absurd ⟨_, rfl⟩ hresult

theorem single {x : Exchange} {b : β} (hwrite : x.write? = verb b)
    (hshows : x.request.Shows k φ x.answer) : Honest k φ verb [x] (.ok (.ok b)) := by
  have hnone : ∀ y ∈ ([] : List Exchange), y.write? = none := by simp
  exact .well hnone hwrite hshows

theorem prepend {first : List Exchange} (hfirst : ∀ x ∈ first, x.write? = none)
    (H : Honest k φ verb es result) : Honest k φ verb (first ++ es) result := by
  cases H with
  | failed hresult hquiet =>
    exact .failed hresult fun x hx => (List.mem_append.1 hx).elim (hfirst x) (hquiet x)
  | well hquiet hwrite hshows =>
    rw [← List.append_assoc]
    exact .well (fun x hx => (List.mem_append.1 hx).elim (hfirst x) (hquiet x)) hwrite hshows

theorem mapError {f : Error → Error} (H : Honest k φ verb es result) :
    Honest k φ verb es (result.map (Except.mapError f)) := by
  cases H with
  | failed hresult hquiet =>
    refine .failed ?_ hquiet
    rintro ⟨b, hb⟩
    match result with
    | .ok (.ok b') => exact hresult ⟨b', rfl⟩
    | .ok (.error e) => cases hb
    | .error why => cases hb
  | well hquiet hwrite hshows => exact .well hquiet hwrite hshows

/-- Of all writes that went well there is as many as the result tells, and of that kind. -/
theorem writes (H : Honest k φ verb es result) :
    es.filterMap Exchange.write? = (told verb result).toList := by
  have quiet {es : List Exchange} (h : ∀ x ∈ es, x.write? = none) :
      es.filterMap Exchange.write? = [] := by
    rw [List.filterMap_eq_nil_iff]
    exact h
  cases H with
  | failed hresult hquiet =>
    rw [quiet hquiet]
    match result with
    | .ok (.ok b) => exact absurd ⟨b, rfl⟩ hresult
    | .ok (.error e) => rfl
    | .error why => rfl
  | @well es x b hquiet hwrite =>
    rw [List.filterMap_append, quiet hquiet, List.nil_append, told, ← hwrite]
    cases h : x.write? <;> simp [h]

/-- After a write that went well there is nothing more. -/
theorem last {before after : List Exchange} {x : Exchange} {v : Verb}
    (H : Honest k φ verb (before ++ x :: after) result) (hx : x.write? = some v) : after = [] := by
  generalize hes : before ++ x :: after = es at H
  cases H with
  | failed _ hquiet =>
    have hnone := hquiet x (by rw [← hes]; exact List.mem_append_right _ List.mem_cons_self)
    rw [hnone] at hx
    cases hx
  | @well first y b hquiet =>
    by_contra hne
    have hinit := congrArg List.dropLast hes
    rw [List.dropLast_concat, List.dropLast_append_of_ne_nil (List.cons_ne_nil _ _),
      List.dropLast_cons_of_ne_nil hne] at hinit
    have hnone := hquiet x (by rw [← hinit]; exact List.mem_append_right _ List.mem_cons_self)
    rw [hnone] at hx
    cases hx

theorem goal {b : β} (H : Honest k φ verb es (.ok (.ok b))) :
    ∃ before x, es = before ++ [x] ∧ x.request.Shows k φ x.answer := by
  cases H with
  | failed hresult => exact absurd ⟨b, rfl⟩ hresult
  | well _ _ hshows => exact ⟨_, _, rfl, hshows⟩

end Honest

end Honest

/-! ## From an attempt to the loop -/

namespace Amendment

variable {k : Kind} {name : String} {β : Type} {A : Amendment k name β}
  {φ : Option k.Object → Prop} {verb : β → Option Verb} {es : List Exchange}
  {result : Except Stop (Except Error β)}

/-- The results of a plan tell whether the object is written, and how; either way it is then as `φ`
says. -/
structure Tells (A : Amendment k name β) (φ : Option k.Object → Prop) (verb : β → Option Verb) :
    Prop where
  finish {found b} : A.plan found = .finish (.ok b) → φ found ∧ verb b = none
  write {found x b} : A.plan found = .write x b →
    verb b = some (.toWrite found) ∧ ∀ n, φ (some (Resource.withVersion x n))

theorem Course.honest (H : A.Course es result) (htells : A.Tells φ verb)
    (hpossible : ∀ x ∈ es, x.Possible) : Honest k φ verb es result := by
  have hread {answer} : ∀ x ∈ [Exchange.read k name answer], x.write? = none :=
    List.forall_mem_singleton.2 Exchange.write?_read
  cases H with
  | unread hfails => exact .failed hfails.not_wentWell hread
  | @finished found result hplan =>
    cases result with
    | error e => exact .failed (Script.not_wentWell_error e) hread
    | ok b =>
      obtain ⟨hφ, hverb⟩ := htells.finish hplan
      exact .single (Exchange.write?_read.trans hverb.symm) (.intro rfl hφ)
  | unwritten hplan hfails =>
    refine .failed hfails.not_wentWell ?_
    refine List.forall_mem_cons.2 ⟨Exchange.write?_read, List.forall_mem_singleton.2 ?_⟩
    cases hfails with
    | error => exact Exchange.write?_put_error
    | panic => exact Exchange.write?_put_panic
  | written hplan =>
    obtain ⟨hverb, hφ⟩ := htells.write hplan
    have hput := hpossible _ (List.mem_cons_of_mem _ List.mem_cons_self)
    have hend := Honest.single (Exchange.write?_put_ok.trans hverb.symm) (Exchange.shows_put hφ hput)
    exact hend.prepend hread

end Amendment

namespace Retry

variable {k : Kind} {β : Type} {φ : Option k.Object → Prop} {verb : β → Option Verb}
  {s : Schedule} {again : Error → Bool} {body : Nat → Script (Except Error β)} {n : Nat}
  {trials : List (Trial Error β)} {es : List Exchange} {result : Except Stop (Except Error β)}

/-- Everything that a loop asked for was asked for in one of its attempts or between two. -/
theorem Tries.mem_exchanges (H : Tries s again body n trials es result) {trial : Trial Error β}
    (ht : trial ∈ trials) : (∃ n, (body n).Trace trial.exchanges trial.result) ∧
      ∀ x ∈ trial.exchanges, x ∈ es := by
  induction H with
  | cut => cases ht
  | ended hbody =>
    cases List.mem_singleton.1 ht
    exact ⟨⟨_, hbody⟩, fun x hx => hx⟩
  | spent hbody =>
    cases List.mem_singleton.1 ht
    exact ⟨⟨_, hbody⟩, fun x hx => List.mem_append_left _ hx⟩
  | again hbody _ _ _ _ ih =>
    rcases List.mem_cons.1 ht with rfl | ht
    · exact ⟨⟨_, hbody⟩, fun x hx => List.mem_append_left _ (List.mem_append_left _ hx)⟩
    · obtain ⟨hbody, hmem⟩ := ih ht
      exact ⟨hbody, fun x hx => List.mem_append_right _ (hmem x hx)⟩

/-- What a failed attempt tells is true of it and of the pause after it, so the loop tells the truth
if its last attempt does. -/
theorem Tries.honest (H : Tries s again body n trials es result)
    (hbody : ∀ n es result, (body n).Trace es result → (∀ x ∈ es, x.Possible) →
      Honest k φ verb es result) (hpossible : ∀ x ∈ es, x.Possible) :
    Honest k φ verb es result := by
  have quiet {n : Nat} {es idle : List Exchange} {e : Error}
      (htrace : (body n).Trace es (.ok (.error e))) (hidle : ∀ x ∈ idle, x.Idle)
      (hpossible : ∀ x ∈ es, x.Possible) : ∀ x ∈ es ++ idle, x.write? = none := by
    have hfailed := (hbody n es _ htrace hpossible).of_failed (Script.not_wentWell_error e)
    intro x hx
    rcases List.mem_append.1 hx with hx | hx
    · exact hfailed x hx
    · exact Exchange.write?_of_idle (hidle x hx)
  induction H with
  | cut => exact .failed (Script.not_wentWell_stop _) (by simp)
  | ended htrace => exact hbody _ _ _ htrace hpossible
  | spent htrace _ _ _ hidle hresult =>
    obtain ⟨hpossible, -⟩ := List.forall_mem_append.1 hpossible
    refine .failed ?_ (quiet htrace hidle hpossible)
    rcases hresult with rfl | ⟨why, rfl⟩
    · exact Script.not_wentWell_error _
    · exact Script.not_wentWell_stop _
  | again htrace _ _ hidle _ ih =>
    obtain ⟨hfirst, hrest⟩ := List.forall_mem_append.1 hpossible
    exact (ih hrest).prepend (quiet htrace hidle (List.forall_mem_append.1 hfirst).1)

end Retry

/-! ## The three errands -/

open Rotation

/-- What the controller does to one object: it stores an authority in a secret, empties a secret, or
brings a bundle to a target. -/
inductive Errand where
  | store (name namespaceName : String) (a : Authority)
  | withdraw (name : String)
  | sync (target : Target) (bundle : Bytes)

namespace Errand

abbrev kind : Errand → Kind
  | .store .. | .withdraw _ => .secret
  | .sync target _ => .webhook target.kind

def name : Errand → String
  | .store name .. | .withdraw name => name
  | .sync target _ => target.name

abbrev Result : Errand → Type
  | .store .. => Written
  | .withdraw _ => LeafChange
  | .sync .. => SyncOutcome

/-- One attempt. -/
def attempt : (e : Errand) → Attempt e.Result
  | .store name namespaceName a =>
    createOrUpdate .secret name (some namespaceName) (Secret.holding a)
  | .withdraw name => clearSecret name
  | .sync target bundle => target.syncOnce bundle

/-- The attempts, again after each conflict. -/
def loop (horizon : Nat) (s : Schedule) : (e : Errand) → Attempt e.Result
  | .store name namespaceName a => persist horizon name namespaceName a s
  | .withdraw name => invalidateLeaf horizon name s
  | .sync target bundle => target.sync horizon bundle s

/-- The error of the loop for the last error of its attempts. -/
def failure (s : Schedule) : Errand → Error → Error
  | .store .. => Retry.exhausted s "persist_ca_secret"
  | .withdraw name => fun e => .cascade name (Retry.exhausted s "invalidate_leaf_secret" e)
  | .sync target _ => Retry.exhausted s target.operation

/-- How the object should be. -/
def Goal : (e : Errand) → Option e.kind.Object → Prop
  | .store _ _ a => Secret.Stores a
  | .withdraw _ => Secret.Blank
  | .sync _ bundle => WebhookConfiguration.Trusts bundle

/-- What a result says about writing the object. -/
def verb : (e : Errand) → e.Result → Option Verb
  | .store .., .created => some .create
  | .store .., .updated => some .replace
  | .store .., .unchanged => none
  | .withdraw _, .cleared => some .replace
  | .withdraw _, .alreadyEmpty | .withdraw _, .absent => none
  | .sync .., .updated => some .replace
  | .sync .., .unchanged => none

def amendment : (e : Errand) → Amendment e.kind e.name e.Result
  | .store name namespaceName a => storing name namespaceName a
  | .withdraw name => clearing name
  | .sync target bundle => target.syncing bundle

variable {e : Errand} {horizon : Nat} {s : Schedule} {es : List Exchange}
  {result : Except Stop (Except Error e.Result)}

theorem attempt_eq (e : Errand) : e.attempt = e.amendment.attempt := by
  cases e with
  | store => exact createOrUpdate_eq metadata_holding
  | withdraw => exact clearSecret_eq
  | sync => exact Target.syncOnce_eq

theorem storing_tells {name namespaceName : String} {a : Authority} :
    (storing name namespaceName a).Tells (Secret.Stores a) (store name namespaceName a).verb where
  finish h := by
    obtain ⟨x, rfl, hsame, rfl⟩ := storing_finish h
    exact ⟨stores_iff.2 hsame, rfl⟩
  write h := by
    obtain ⟨hstores, ⟨rfl, rfl⟩ | ⟨y, rfl, -, rfl⟩⟩ := storing_write h
    · exact ⟨rfl, hstores⟩
    · exact ⟨rfl, hstores⟩

theorem clearing_tells {name : String} :
    (clearing name).Tells Secret.Blank (withdraw name).verb where
  finish {found change} h := by
    obtain ⟨hblank, hchange⟩ := clearing_for.finish h
    cases change with
    | cleared => exact absurd rfl hchange
    | alreadyEmpty | absent => exact ⟨hblank, rfl⟩
  write {found x change} h := by
    obtain ⟨-, rfl, hblank⟩ := clearing_for.write h
    cases found with
    | none => cases h
    | some y => exact ⟨rfl, hblank⟩

theorem syncing_tells {target : Target} {bundle : Bytes} :
    (target.syncing bundle).Tells (WebhookConfiguration.Trusts bundle) (sync target bundle).verb where
  finish {found outcome} h := by
    obtain ⟨htrusts, houtcome⟩ := target.syncing_for.finish h
    cases outcome with
    | updated => exact absurd rfl houtcome
    | unchanged => exact ⟨htrusts, rfl⟩
  write {found x outcome} h := by
    obtain ⟨-, rfl, htrusts⟩ := target.syncing_for.write h
    cases found with
    | none => cases h
    | some config => exact ⟨rfl, htrusts⟩

theorem tells (e : Errand) : e.amendment.Tells e.Goal e.verb := by
  cases e with
  | store => exact storing_tells
  | withdraw => exact clearing_tells
  | sync => exact syncing_tells

theorem tries (H : (e.loop horizon s).run.Trace es result) : ∃ trials inner,
    Retry.Tries s Error.isConflict (fun _ => e.attempt.run) 0 trials es inner ∧
      result = inner.map (Except.mapError (e.failure s)) := by
  cases e with
  | store => exact Retry.onConflict_tries H
  | withdraw name =>
    obtain ⟨middle, hmiddle, rfl⟩ := Script.Trace.mapError H
    obtain ⟨trials, inner, htries, rfl⟩ := Retry.onConflict_tries hmiddle
    refine ⟨trials, inner, htries, ?_⟩
    match inner with
    | .ok (.ok b) => rfl
    | .ok (.error e) => rfl
    | .error why => rfl
  | sync => exact Retry.onConflict_tries H

/-- What an errand has done, exchange by exchange, and what it says about it. -/
structure Account (e : Errand) (s : Schedule) (es : List Exchange)
    (result : Except Stop (Except Error e.Result)) : Prop where
  /-- All that was asked was asked in attempts, each of which has read the object once and written
  it at most once, or between two attempts. -/
  attempts : ∃ trials inner,
    Retry.Tries s Error.isConflict (fun _ => e.attempt.run) 0 trials es inner ∧
      result = inner.map (Except.mapError (e.failure s)) ∧
      ∀ trial ∈ trials, Amendment.Once e.kind e.name trial.exchanges
  /-- The object was written as often as the result tells, once or never, and in the way it tells. -/
  writes : es.filterMap Exchange.write? = (told e.verb result).toList
  /-- After the object was written nothing more was asked. -/
  last : ∀ {before after x v}, es = before ++ x :: after → Exchange.write? x = some v → after = []
  /-- After a good end the object is, as it was read or written last, as it should be. -/
  goal : ∀ {b}, result = .ok (.ok b) →
    ∃ before x, es = before ++ [x] ∧ x.request.Shows e.kind e.Goal x.answer

theorem account_of_trace (H : (e.loop horizon s).run.Trace es result)
    (hpossible : ∀ x ∈ es, x.Possible) : e.Account s es result := by
  obtain ⟨trials, inner, htries, rfl⟩ := e.tries H
  have course {es : List Exchange} {result : Except Stop (Except Error e.Result)}
      (htrace : e.attempt.run.Trace es result) : e.amendment.Course es result := by
    rw [attempt_eq] at htrace
    exact Amendment.attempt_course htrace
  have hhonest : Honest e.kind e.Goal e.verb es (inner.map (Except.mapError (e.failure s))) :=
    (htries.honest (fun n es result htrace h => (course htrace).honest e.tells h) hpossible).mapError
  refine ⟨⟨trials, inner, htries, rfl, fun trial ht => ?_⟩, hhonest.writes, ?_, ?_⟩
  · obtain ⟨⟨n, htrace⟩, hmem⟩ := htries.mem_exchanges ht
    exact (course htrace).once fun x hx => hpossible x (hmem x hx)
  · rintro before after x v rfl hx
    exact hhonest.last hx
  · intro b hb
    rw [hb] at hhonest
    exact hhonest.goal

/-- An errand among other writers, however it ends and whatever they do: at most one write goes
well, nothing comes after it, and the result tells whether there was one. -/
theorem account_of_runs {m t : Scene} (H : (e.loop horizon s).run.Runs Scene.Outside m result t) :
    ∃ es, t.past.exchanges = es.reverse ++ m.past.exchanges ∧ e.Account s es result := by
  obtain ⟨es, htrace, hpossible, hpast⟩ := H.trace
  exact ⟨es, hpast, account_of_trace htrace hpossible⟩

/-- There is no secret for the authority, but somebody creates one just before the errand does. -/
def contested : World Cluster where
  env := { clock := ⟨0, 0⟩, source := .queue [] }
  objects := .filled [] [] [] { writes := [.race (Sample.secret "ca" [("note", [1])])] }

abbrev sample : Errand := .store "ca" "system" ⟨"certificate", "key", ⟨0, 0⟩, ⟨60000000000, 0⟩⟩

/-- The creation fails, and the next attempt replaces what it has not created. -/
theorem account_of_contested : ∃ m t,
    (sample.loop 1 .onConflict).run.Runs Scene.Outside m (.ok (.ok .updated)) t ∧
      t.past.exchanges.length = 7 ∧
      ∃ es, t.past.exchanges = es.reverse ++ m.past.exchanges ∧
        sample.Account .onConflict es (.ok (.ok Written.updated)) := by
  obtain ⟨hend, hlength⟩ :
      EndsIn (fun b : Written => b = .updated)
        ((sample.loop 1 .onConflict).run.run World.logged (contested, [])).1 ∧
      ((sample.loop 1 .onConflict).run.run World.logged (contested, [])).2.2.exchanges.length = 7 := by
    decide +kernel
  have hsound : ∀ k, (contested.objects.stores k).Sound := Cluster.sound_filled
  obtain ⟨sound, hrun⟩ := World.runs_outside (sample.loop 1 .onConflict).run
  obtain ⟨_, hresult, rfl⟩ := hend.exists
  rw [hresult] at hrun
  exact ⟨contested.scene hsound [], _, hrun, hlength, account_of_runs hrun⟩

end Errand

end TrustAnchor
