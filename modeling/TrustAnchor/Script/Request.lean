import TrustAnchor.Error

/-! What the controller asks of its surroundings: reading and writing objects, the time, a new
authority, chance, a note in the log, and a pause. -/

namespace TrustAnchor

/-- A call on the store of a kind of objects. -/
inductive Call (α : Type) where
  /-- Reads the object of a name, if there is one. -/
  | get (name : String)
  /-- Adds an object; a conflict if there is one of its name. -/
  | create (x : α)
  /-- Replaces the object of the same name; a conflict if it is at another version. -/
  | replace (x : α)

namespace Call

abbrev Answer : Call α → Type
  | .get _ => Except Error (Option α)
  | .create _ | .replace _ => Except Error α

def isWrite : Call α → Bool
  | .get _ => false
  | .create _ | .replace _ => true

/-- The name of the object that the call is about. -/
def name [Resource α] : Call α → String
  | .get name => name
  | .create x | .replace x => Resource.anyName x

end Call

/-- A failed attempt that may be followed by another. -/
structure Setback where
  operation : String
  /-- Counted from one. -/
  attempt : Nat
  /-- The wait before the next attempt; none if this was the last. -/
  pause : Option Duration
  deriving DecidableEq, Repr

inductive Request where
  | store (kind : Kind) (call : Call kind.Object)
  | now
  /-- A new authority, valid from a point in time on. -/
  | generate (start : Instant)
  /-- A random number from zero to one. -/
  | chance
  | report (setback : Setback)
  | sleep (d : Duration)

namespace Request

abbrev Answer : Request → Type
  | .store _ call => call.Answer
  | .now => Instant
  | .generate _ => Except AuthorityError Authority
  | .chance => Binary64
  | .report _ | .sleep _ => Unit

end Request

end TrustAnchor
