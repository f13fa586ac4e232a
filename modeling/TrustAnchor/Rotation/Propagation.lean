import TrustAnchor.Retry.Loop
import TrustAnchor.Script.Together

/-! Handing a bundle to every webhook configuration that needs it. Each target is looked after by a
script of its own, none of which disturbs another; if any target fails, the propagation fails and
names all that did. -/

namespace TrustAnchor

/-- A webhook configuration that has to carry the bundle. -/
structure Target where
  kind : WebhookKind
  name : String
  deriving DecidableEq, Repr

/-- What was done to a target. -/
inductive SyncOutcome where
  | updated
  | unchanged
  deriving DecidableEq, Repr

structure TargetOutcome where
  target : Target
  outcome : SyncOutcome
  deriving DecidableEq, Repr

namespace Target

open Script (Attempt)

/-- The name under which attempts at the target are reported. -/
def operation (t : Target) : String := "sync_ca_bundle:" ++ t.kind.text ++ "/" ++ t.name

/-- Reads the target, puts the bundle in and writes it if that changed it. One attempt. -/
def syncOnce (t : Target) (bundle : Bytes) : Attempt SyncOutcome := do
  match ← Script.get (.webhook t.kind) t.name with
  | none => throw (.missingResource (.webhook t.kind) t.name)
  | some config =>
    let (config, changed) := config.inject bundle
    if !changed then return .unchanged
    let _ ← Script.replace (.webhook t.kind) config
    return .updated

/-- Brings the bundle to the target, again after each conflict. -/
def sync (horizon : Nat) (bundle : Bytes) (s : Schedule) (t : Target) : Attempt SyncOutcome :=
  Retry.onConflict horizon s t.operation fun _ => t.syncOnce bundle

end Target

namespace Rotation

open Script (Attempt)

/-- The result of a script that may have broken off. Scripts have no numbers of their own. -/
def joined : Except String (Except Error α) → Except Error α
  | .ok result => result
  | .error text => .error (.task ("task # panicked with message " ++ Text.quoted text))

/-- All outcomes if all are good, or else all failures. -/
def gather (results : List (Target × Except Error SyncOutcome)) :
    Except Error (List TargetOutcome) :=
  let outcomes := results.filterMap fun (target, result) =>
    match result with
    | .ok outcome => some { target, outcome }
    | .error _ => none
  let failures := results.filterMap fun (target, result) =>
    match result with
    | .ok _ => none
    | .error error => some { kind := target.kind.text, name := target.name, error }
  if failures.isEmpty then .ok outcomes else .error (.propagation failures results.length)

/-- Brings the bundle to all targets side by side and waits for all of them. -/
def propagate (horizon : Nat) (targets : List Target) (bundle : Bytes) (s : Schedule) :
    Attempt (List TargetOutcome) := ExceptT.mk do
  let scripts := targets.map fun t => (t.sync horizon bundle s).run
  let results ← Script.together (Retry.rounds horizon s) scripts
  return gather (targets.zip (results.map joined))

end Rotation

end TrustAnchor
