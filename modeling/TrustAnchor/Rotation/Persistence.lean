import TrustAnchor.Retry.Loop

/-! Writing an object only when it has to be written: it is read, changed, and written if that
changed anything. Such an attempt is repeated when another writer was faster. -/

namespace TrustAnchor

/-- What was done to bring an object about. -/
inductive Written where
  | created
  | updated
  | unchanged
  deriving DecidableEq, Repr

namespace Rotation

open Script (Attempt)

/-- Creates an object if there is none of its name, and otherwise writes it if the change changes
it. One attempt: a write by another in between is an error. -/
def createOrUpdate (k : Kind) (name : String) (namespaceName : Option String)
    (change : k.Object → k.Object) : Attempt Written := do
  match ← Script.get k name with
  | none =>
    let _ ← Script.create k (change (Resource.named name namespaceName))
    return .created
  | some found =>
    let desired := change found
    if desired = found then return .unchanged
    let _ ← Script.replace k desired
    return .updated

/-- Stores an authority in the secret of a name. -/
def persist (horizon : Nat) (name namespaceName : String) (a : Authority) (s : Schedule) :
    Attempt Written :=
  Retry.onConflict horizon s "persist_ca_secret" fun _ =>
    createOrUpdate .secret name (some namespaceName) (Secret.holding a)

/-- The secret of a name with nothing in it. -/
def emptySecret (name namespaceName : String) : Secret := Resource.named name (some namespaceName)

/-- Creates an empty secret if there is none of the name, and says whether it did. Another writer
may create it first. -/
def ensureSecret (horizon : Nat) (name namespaceName : String) (s : Schedule) : Attempt Bool :=
  Retry.always horizon s "ensure_ca_secret" fun _ => ExceptT.run do
    if (← Script.get .secret name).isSome then return false
    tryCatch
      (do
        let _ ← Script.create .secret (emptySecret name namespaceName)
        return true)
      fun e => if e.isConflict then return false else throw e

end Rotation

end TrustAnchor
