import TrustAnchor.Rotation.Leaf
import TrustAnchor.Rotation.Persistence
import TrustAnchor.Rotation.Propagation
import TrustAnchor.Settings

/-! One pass over the stored authority: it is kept as long as it is valid, and otherwise replaced.
The bundle goes to all targets before the authority is stored, so an authority that is stored is
trusted everywhere; the certificate issued under a replaced authority is withdrawn last. -/

namespace TrustAnchor

/-- What the controller looks after. -/
structure Controller where
  namespaceName : String
  caSecret : String
  leafSecret : String
  targets : List Target
  schedule : Schedule
  maxRequeue : Duration
  reader : Authority.Reader := .standard

/-- The controller of some settings. -/
def Controller.ofSettings (s : Settings) : Controller where
  namespaceName := s.namespaceName
  caSecret := s.caSecret
  leafSecret := s.leafSecret
  targets := [⟨.mutating, s.mutatingConfiguration⟩, ⟨.validating, s.validatingConfiguration⟩]
  schedule := s.schedule
  maxRequeue := s.maxRequeue

/-- Why a new authority is made. -/
inductive RegenerateReason where
  | missing
  | expired
  deriving DecidableEq, Repr

/-- What is to be done about an authority. -/
inductive Decision where
  | keep (a : Authority) (remaining : Duration)
  | regenerate (reason : RegenerateReason)
  deriving DecidableEq, Repr

/-- What is to be done about what was found stored, at a point in time. -/
def Decision.at (found : Option Authority) (now : Instant) : Decision :=
  match found with
  | none => .regenerate .missing
  | some a =>
    match a.remaining now with
    | .ok remaining => .keep a remaining
    | .error _ => .regenerate .expired

/-- What a pass did. -/
structure PassReport where
  /-- How long the authority is still valid. -/
  requeueAfter : Duration
  persistence : Written
  regenerated : Option RegenerateReason
  /-- Set if an authority was replaced. -/
  leaf : Option LeafChange
  propagated : List TargetOutcome
  deriving DecidableEq, Repr

/-- How many targets were written. -/
def PassReport.targetsUpdated (r : PassReport) : Nat :=
  (r.propagated.filter (·.outcome = .updated)).length

namespace Rotation

open Script (Attempt)

/-- The authority stored in the secret of a name. -/
def load (name : String) (R : Authority.Reader := .standard) : Attempt (Option Authority) := do
  match ← Script.get .secret name with
  | none => return none
  | some secret => ofExcept ((Authority.ofEntries secret.data R).mapError Error.authority)

/-- A new authority and how long it is valid, counted from its first whole second. -/
def generate (now : Instant) : Attempt (Authority × Duration) := do
  let answer ← Script.request (.generate now)
  let a ← ofExcept (answer.mapError Error.authority)
  let validity ← ofExcept ((a.remaining a.notBefore).mapError Error.authority)
  return (a, validity)

/-- The authority to use from now on, why it was made if it is new, and how long it lasts. -/
def choose (found : Option Authority) (now : Instant) :
    Attempt (Authority × Option RegenerateReason × Duration) := do
  match Decision.at found now with
  | .keep a remaining => return (a, none, remaining)
  | .regenerate reason =>
    let (a, validity) ← generate now
    return (a, some reason, validity)

/-- One pass. -/
def pass (horizon : Nat) (c : Controller) : Attempt PassReport := do
  let now ← Script.request .now
  let found ← load c.caSecret c.reader
  let (a, regenerated, requeueAfter) ← choose found now
  let propagated ← propagate horizon c.targets a.bundle c.schedule
  let persistence ← persist horizon c.caSecret c.namespaceName a c.schedule
  let leaf ← match persistence with
    | .updated => some <$> invalidateLeaf horizon c.leafSecret c.schedule
    | .created | .unchanged => pure none
  return { requeueAfter, persistence, regenerated, leaf, propagated }

end Rotation

end TrustAnchor
