import TrustAnchor.Authority.Basic
import TrustAnchor.Resource.Basic

/-! Configurations of admission webhooks. Each entry says how its webhook is reached: by a service,
whose certificate is ours to vouch for, or by an address, which is left alone. -/

namespace TrustAnchor

structure ServiceReference where
  name : String := ""
  namespaceName : String := ""
  path : Option String := none
  port : Option Int := none
  deriving DecidableEq, Repr

structure Webhook where
  name : String := ""
  service : Option ServiceReference := none
  /-- The certificates by which the API server judges the webhook's own. -/
  bundle : Option Bytes := none
  url : Option String := none
  /-- Further members, carried along unchanged. -/
  others : List (String × Json) := []
  deriving DecidableEq

structure WebhookConfiguration where
  metadata : Metadata := {}
  webhooks : Option (List Webhook) := none
  deriving DecidableEq

namespace WebhookConfiguration

instance : Resource WebhookConfiguration where
  metadata := metadata
  withMetadata x m := { x with metadata := m }
  empty := {}
  metadata_withMetadata _ _ := rfl
  withMetadata_metadata _ := rfl
  withMetadata_withMetadata _ _ _ := rfl

/-- The entries; a missing list has none. -/
def entries (c : WebhookConfiguration) : List Webhook := c.webhooks.getD []

/-- Every entry that is reached by a service carries the bundle. -/
def inSync (c : WebhookConfiguration) (bundle : Bytes) : Bool :=
  (c.entries.filter (·.service.isSome)).all (·.bundle = some bundle)

/-- Puts the bundle into every entry that is reached by a service, and says whether any entry had
another bundle or none. -/
def injectEntries (bundle : Bytes) : List Webhook → List Webhook × Bool
  | [] => ([], false)
  | w :: rest =>
    let (rest, changed) := injectEntries bundle rest
    if w.service.isSome && w.bundle ≠ some bundle then
      ({ w with bundle := some bundle } :: rest, true)
    else (w :: rest, changed)

/-- The configuration with the bundle, and whether it has to be written. -/
def inject (c : WebhookConfiguration) (bundle : Bytes) : WebhookConfiguration × Bool :=
  match c.webhooks with
  | none => (c, false)
  | some entries =>
    let (entries, changed) := injectEntries bundle entries
    ({ c with webhooks := some entries }, changed)

end WebhookConfiguration

end TrustAnchor
