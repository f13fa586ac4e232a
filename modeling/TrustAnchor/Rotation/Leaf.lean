import TrustAnchor.Retry.Loop

/-! Withdrawing the certificate that was issued under a replaced authority: its secret is emptied,
so that whoever issues it issues a new one. -/

namespace TrustAnchor

/-- What was done to the secret of the issued certificate. -/
inductive LeafChange where
  | cleared
  | alreadyEmpty
  | absent
  deriving DecidableEq, Repr

namespace Rotation

open Script (Attempt)

/-- One attempt to empty a secret. -/
def clearSecret (name : String) : Attempt LeafChange := do
  match ← Script.get .secret name with
  | none => return .absent
  | some secret =>
    if !secret.hasContent then return .alreadyEmpty
    let _ ← Script.replace .secret secret.cleared
    return .cleared

/-- Empties a secret, again after each conflict. A missing secret is left missing; any failure is
reported as one of the rotation. -/
def invalidateLeaf (horizon : Nat) (name : String) (s : Schedule) : Attempt LeafChange :=
  ExceptT.mk do
  let result ← Retry.onConflict horizon s "invalidate_leaf_secret" fun _ => clearSecret name
  return result.mapError (.cascade name)

end Rotation

end TrustAnchor
