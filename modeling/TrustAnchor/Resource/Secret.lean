import TrustAnchor.Authority.Basic
import TrustAnchor.Resource.Basic

/-! Secrets: named bytes, which may also be given as text until the server has taken them in. -/

namespace TrustAnchor

structure Secret where
  metadata : Metadata := {}
  data : Option (KeyMap Bytes) := none
  stringData : Option (KeyMap String) := none
  type : Option String := none
  immutable : Option Bool := none
  deriving DecidableEq

namespace Secret

instance : Resource Secret where
  metadata := metadata
  withMetadata x m := { x with metadata := m }
  empty := {}
  metadata_withMetadata _ _ := rfl
  withMetadata_metadata _ := rfl
  withMetadata_withMetadata _ _ _ := rfl

/-- The secret that stores an authority, and nothing besides it. -/
def holding (a : Authority) (s : Secret) : Secret :=
  { s with data := some a.toEntries, stringData := none }

/-- Something is stored, in either form. -/
def hasContent (s : Secret) : Bool :=
  s.data.any (!·.isEmpty) || s.stringData.any (!·.isEmpty)

/-- The secret with nothing stored. -/
def cleared (s : Secret) : Secret := { s with data := some .empty, stringData := none }

end Secret

end TrustAnchor
