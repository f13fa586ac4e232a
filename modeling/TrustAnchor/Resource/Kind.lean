import TrustAnchor.Resource.Secret
import TrustAnchor.Resource.WebhookConfiguration

/-! The three kinds of objects that are read and written, each with a store of its own. -/

namespace TrustAnchor

/-- The two kinds of webhook configurations. -/
inductive WebhookKind where
  | mutating
  | validating
  deriving DecidableEq, Repr

def WebhookKind.text : WebhookKind → String
  | .mutating => "MutatingWebhookConfiguration"
  | .validating => "ValidatingWebhookConfiguration"

inductive Kind where
  | secret
  | webhook (kind : WebhookKind)
  deriving DecidableEq, Repr

namespace Kind

/-- The objects of a kind. -/
abbrev Object : Kind → Type
  | .secret => Secret
  | .webhook _ => WebhookConfiguration

instance : (k : Kind) → Resource k.Object
  | .secret => inferInstanceAs (Resource Secret)
  | .webhook _ => inferInstanceAs (Resource WebhookConfiguration)

instance : (k : Kind) → DecidableEq k.Object
  | .secret => inferInstanceAs (DecidableEq Secret)
  | .webhook _ => inferInstanceAs (DecidableEq WebhookConfiguration)

def text : Kind → String
  | .secret => "Secret"
  | .webhook kind => kind.text

end Kind

end TrustAnchor
