import TrustAnchor.Proofs.Settling

/-! Attempts that read an object and then either end or write it. All that the controller writes,
it writes in such an attempt. -/

namespace TrustAnchor

open Script (Attempt Runs WentWell Keeps Stable)

/-- What an attempt does about what it has read. -/
inductive Plan (k : Kind) (β : Type) where
  | finish (result : Except Error β)
  /-- Writes an object, and has a result if that succeeds. -/
  | write (x : k.Object) (b : β)

/-- A plan for everything that can be found under a name. What is written has that name, and the
version that was found. -/
structure Amendment (k : Kind) (name : String) (β : Type) where
  plan : Option k.Object → Plan k β
  anyName : ∀ {x b}, plan none = .write x b → Resource.anyName x = name
  metadata : ∀ {y x b}, plan (some y) = .write x b → Resource.metadata x = Resource.metadata y

namespace Amendment

variable {k : Kind} {name : String} {β : Type}

/-- An object is created if there was none, and replaced if there was. -/
def put (k : Kind) (found : Option k.Object) (x : k.Object) : Attempt k.Object :=
  match found with
  | none => Script.create k x
  | some _ => Script.replace k x

def act (found : Option k.Object) : Plan k β → Attempt β
  | .finish result => ExceptT.mk (pure result)
  | .write x b => do
    let _ ← put k found x
    return b

def attempt (A : Amendment k name β) : Attempt β := do
  let found ← Script.get k name
  act found (A.plan found)

variable (A : Amendment k name β) {found : Option k.Object} {x : k.Object} {b : β}

theorem anyName_of_possible (hplan : A.plan found = .write x b)
    (h : (Request.store k (.get name)).Possible (.ok (.ok found))) :
    Resource.anyName x = name := by
  cases found with
  | none => exact A.anyName hplan
  | some y => exact (Resource.anyName_of_metadata (A.metadata hplan)).trans h

theorem anyName_of_sound {s : Store k.Object} (hs : s.Sound)
    (hplan : A.plan (s.objects.get? name) = .write x b) : Resource.anyName x = name := by
  cases hfound : s.objects.get? name with
  | none => exact A.anyName (hfound ▸ hplan)
  | some y =>
    rw [hfound] at hplan
    exact (Resource.anyName_of_metadata (A.metadata hplan)).trans (hs.name hfound)

theorem anyName_of_object {s : Scene} (hplan : A.plan (s.object k name) = .write x b) :
    Resource.anyName x = name := A.anyName_of_sound (s.sound k) hplan

theorem asks : A.attempt.run.Asks (Request.Within fun k' other => k' = k ∧ other = name) := by
  refine ⟨⟨rfl, rfl⟩, fun answer hpossible => ?_⟩
  match answer with
  | .error text => trivial
  | .ok (.error e) => trivial
  | .ok (.ok found) =>
    show (act found (A.plan found)).run.Asks _
    cases hplan : A.plan found with
    | finish result => trivial
    | write x b =>
      have hx := A.anyName_of_possible hplan hpossible
      refine Script.Asks.attempt ?_ fun _ => trivial
      cases found with
      | none => exact Script.Asks.request ⟨rfl, hx⟩
      | some y => exact Script.Asks.request ⟨rfl, hx⟩

/-- A write that succeeds leaves the object as it was to be; one that fails is no good end. -/
theorem act_write_settles {φ : Option k.Object → Prop} (found : Option k.Object) (b : β)
    (hx : Resource.anyName x = name)
    (hφ : ∀ n, φ (some (Resource.withVersion x n))) :
    (act found (.write x b)).run.Settles k name φ ∧ (act found (.write x b)).run.Owes k name := by
  cases found with
  | none =>
    refine ⟨fun answer hpossible => ?_, .inl ⟨rfl, hx⟩⟩
    match answer with
    | .error text => exact ⟨fun _ => .inr trivial, trivial⟩
    | .ok (.error e) => exact ⟨fun _ => .inr trivial, trivial⟩
    | .ok (.ok y) =>
      obtain ⟨n, rfl⟩ := hpossible
      exact ⟨fun _ => .inl (.intro rfl (hφ n)), trivial⟩
  | some z =>
    refine ⟨fun answer hpossible => ?_, .inl ⟨rfl, hx⟩⟩
    match answer with
    | .error text => exact ⟨fun _ => .inr trivial, trivial⟩
    | .ok (.error e) => exact ⟨fun _ => .inr trivial, trivial⟩
    | .ok (.ok y) =>
      obtain ⟨n, rfl⟩ := hpossible
      exact ⟨fun _ => .inl (.intro rfl (hφ n)), trivial⟩

theorem settles {φ : Option k.Object → Prop}
    (hfinish : ∀ {found b}, A.plan found = .finish (.ok b) → φ found)
    (hwrite : ∀ {found x b}, A.plan found = .write x b → ∀ n, φ (some (Resource.withVersion x n))) :
    A.attempt.run.Settles k name φ ∧ A.attempt.run.Owes k name := by
  refine ⟨fun answer hpossible => ?_, .inl ⟨rfl, rfl⟩⟩
  match answer with
  | .error text => exact ⟨fun _ => .inr trivial, trivial⟩
  | .ok (.error e) => exact ⟨fun _ => .inr trivial, trivial⟩
  | .ok (.ok found) =>
    show (_ → _ ∨ (act found (A.plan found)).run.Owes k name) ∧
      (act found (A.plan found)).run.Settles k name φ
    cases hplan : A.plan found with
    | finish result =>
      cases result with
      | error e => exact ⟨fun _ => .inr trivial, trivial⟩
      | ok b => exact ⟨fun _ => .inl (.intro rfl (hfinish hplan)), trivial⟩
    | write x b =>
      have hx := A.anyName_of_possible hplan hpossible
      obtain ⟨hsettles, howes⟩ := act_write_settles found b hx (hwrite hplan)
      exact ⟨fun _ => .inr howes, hsettles⟩

section Runs

variable {R : Scene → Scene → Prop} {s t : Scene}

/-- What is written is at the version that was found, so it can only replace that version. -/
def Fits (found current : Option k.Object) (x : k.Object) : Prop :=
  match found with
  | none => current = none
  | some _ => ∃ z, current = some z ∧ Resource.version x = Resource.version z

/-- How a write runs. -/
theorem put_runs {result : Except Stop (Except Error k.Object)}
    (H : (put k found x).run.Runs R s result t) :
    ∃ m r answer stores, R s m ∧ ∃ h : m.Answers r answer stores, R (m.after h) t ∧
      (¬ WentWell result ∧ ¬ r.Wrote answer ∧ m.stores.Alike stores ∨
        WentWell result ∧ Fits found (m.object k (Resource.anyName x)) x ∧
          m.stores.Gains k x stores) := by
  cases found with
  | none =>
    obtain ⟨m, answer, stores, hm, h, ht, rfl⟩ := Runs.request H
    refine ⟨m, _, answer, stores, hm, h, ht, ?_⟩
    rcases h.create with ⟨hfails, halike⟩ | ⟨rfl, hnone, hgains⟩
    · refine .inl ⟨fun hwell => ?_, fun hwrote => ?_, halike⟩
      · obtain ⟨y, hy⟩ := Script.exists_of_wentWell hwell
        exact hfails hy
      · obtain ⟨y, hy⟩ := hwrote.of_create
        exact hfails hy
    · exact .inr ⟨⟨_, rfl⟩, hnone, hgains⟩
  | some y =>
    obtain ⟨m, answer, stores, hm, h, ht, rfl⟩ := Runs.request H
    refine ⟨m, _, answer, stores, hm, h, ht, ?_⟩
    rcases h.replace with ⟨hfails, halike⟩ | ⟨rfl, hcurrent, hgains⟩
    · refine .inl ⟨fun hwell => ?_, fun hwrote => ?_, halike⟩
      · obtain ⟨y, hy⟩ := Script.exists_of_wentWell hwell
        exact hfails hy
      · obtain ⟨y, hy⟩ := hwrote.of_replace
        exact hfails hy
    · exact .inr ⟨⟨_, rfl⟩, hcurrent, hgains⟩

/-- How an attempt runs: it fails to read, or goes on with what it has read. -/
theorem attempt_runs {result : Except Stop (Except Error β)}
    (H : A.attempt.run.Runs R s result t) :
    ∃ m answer stores, R s m ∧ ∃ hread : m.Answers (.store k (.get name)) answer stores,
      ¬ WentWell result ∧ R (m.after hread) t ∨
        answer = .ok (.ok (m.object k name)) ∧
          (act (m.object k name) (A.plan (m.object k name))).run.Runs R (m.after hread) result
            t := by
  obtain ⟨m, answer, stores, hm, hread, H⟩ := H
  refine ⟨m, answer, stores, hm, hread, ?_⟩
  match answer with
  | .error text =>
    obtain ⟨rfl, ht⟩ := H
    exact .inl ⟨nofun, ht⟩
  | .ok (.error e) =>
    obtain ⟨rfl, ht⟩ := H
    exact .inl ⟨nofun, ht⟩
  | .ok (.ok found) =>
    have hfound : m.object k name = found := hread.get.2 rfl
    subst hfound
    exact .inr ⟨rfl, H⟩

end Runs

end Amendment

end TrustAnchor
