import TrustAnchor.Authority.Issuer
import TrustAnchor.Script.Basic

/-! Surroundings that depend on nothing but their own state: a clock that stands still, a source of
authorities, chance that has been written down in advance, and a record of what was asked. Objects
are looked after by a backend of their own. -/

namespace TrustAnchor

/-- Where new authorities come from. -/
inductive Source where
  /-- Answers that have been laid out. -/
  | queue (answers : List (Except AuthorityError Authority))
  /-- An issuer, and the number that its next key is made of. -/
  | issuer (i : Issuer) (next : Nat)

/-- The next authority, valid from `now` on. -/
def Source.draw (s : Source) (now : Instant) :
    Except String (Except AuthorityError Authority) × Source :=
  match s with
  | .queue [] => (.ok (.error (.generation (.other "queue is empty"))), s)
  | .queue (answer :: rest) => (.ok answer, .queue rest)
  | .issuer i next => (i.issue (.ofNat next) now, .issuer i (next + 1))

structure Environment where
  clock : Instant
  source : Source
  /-- Random numbers, used again from the start when they run out; without any, always a half. -/
  chances : List Binary64 := []
  drawn : Nat := 0
  /-- The points in time for which an authority was asked. -/
  generations : List Instant := []
  setbacks : List Setback := []
  /-- The authorities that were made. -/
  made : List Authority := []

namespace Environment

def chance (e : Environment) : Binary64 :=
  e.chances.getD (e.drawn % e.chances.length) (.ofRatio false 1 2)

/-- The authority that an answer of the source carries. -/
private def authorityOf : Except String (Except AuthorityError Authority) → List Authority
  | .ok (.ok a) => [a]
  | _ => []

def generate (e : Environment) (start : Instant) :
    Except String (Except AuthorityError Authority) × Environment :=
  let (answer, source) := e.source.draw start
  (answer, { e with
    source
    generations := e.generations ++ [start]
    made := e.made ++ authorityOf answer })

/-- Forgets what was asked so far. -/
def forget (e : Environment) : Environment := { e with generations := [], setbacks := [] }

end Environment

/-- Answers calls on stores and keeps a state; it may break off. -/
def Backend (σ : Type) :=
  (k : Kind) → (c : Call k.Object) → σ → Except String c.Answer × σ

/-- Surroundings together with the state of a backend. -/
structure World (σ : Type) where
  env : Environment
  objects : σ

/-- Answers every request from the world. Time does not pass while a script sleeps. -/
def World.handler {σ : Type} (backend : Backend σ) : Handler (World σ) := fun r w =>
  match r with
  | .store k call =>
    let (answer, objects) := backend k call w.objects
    (answer, { w with objects })
  | .now => (.ok w.env.clock, w)
  | .generate start =>
    let (answer, env) := w.env.generate start
    (answer, { w with env })
  | .chance => (.ok w.env.chance, { w with env := { w.env with drawn := w.env.drawn + 1 } })
  | .report setback =>
    (.ok (), { w with env := { w.env with setbacks := w.env.setbacks ++ [setback] } })
  | .sleep _ => (.ok (), w)

end TrustAnchor
