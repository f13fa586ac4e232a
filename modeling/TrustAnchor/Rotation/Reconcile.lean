import TrustAnchor.Rotation.Pass

/-! When passes are made: at the start, if nothing is stored yet; whenever the secret of the
authority changes; and again before the authority expires. -/

namespace TrustAnchor

/-- What the start came to. -/
inductive Bootstrap where
  /-- The secret was there. -/
  | alreadyPresent
  | issued (report : PassReport)
  /-- The pass failed, and an empty secret was left for a later one. -/
  | deferred
  deriving DecidableEq, Repr

/-- When to look again. -/
inductive Wake where
  | onChange
  | after (d : Duration)
  deriving DecidableEq, Repr

/-- As people read it. -/
def Wake.text : Wake → String
  | .onChange => "await_change"
  | .after d => d.text

namespace Rotation

open Script (Attempt)

/-- Makes the first pass if there is no secret. If it fails, an empty secret is left instead: its
creation is the change that makes the controller try again. -/
def bootstrap (horizon : Nat) (c : Controller) (s : Schedule) : Attempt Bootstrap := do
  let present ← Retry.always horizon s "read_ca_secret" fun _ =>
    (Option.isSome <$> Script.get .secret c.caSecret : Attempt Bool)
  if present then return .alreadyPresent
  tryCatch (Bootstrap.issued <$> pass horizon c) fun _ => do
    let _ ← ensureSecret horizon c.caSecret c.namespaceName s
    return .deferred

/-- Answers a change of a secret: only that of the authority matters. The next look is due before
the authority expires, and no later than the controller is willing to wait. -/
def reconcile (horizon : Nat) (c : Controller) (changed : Secret) : Attempt Wake := do
  if Resource.anyName changed ≠ c.caSecret then return .onChange
  let report ← pass horizon c
  return .after (report.requeueAfter.smaller c.maxRequeue)

/-- After a failure the pass is made again soon, whatever the failure was. -/
def afterFailure (_ : Error) : Wake := .after (.ofSeconds 5)

end Rotation

end TrustAnchor
