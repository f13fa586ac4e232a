import TrustAnchor.Json.Basic
import TrustAnchor.KeyMap

/-! What all stored objects have in common: metadata with a name and a version. -/

namespace TrustAnchor

structure Metadata where
  name : Option String := none
  /-- Stands in for a name that the server is to choose. -/
  generateName : Option String := none
  namespaceName : Option String := none
  /-- The version of the object, chosen by the store at each write. -/
  version : Option String := none
  labels : Option (KeyMap String) := none
  /-- Further members, carried along unchanged. -/
  others : List (String × Json) := []
  deriving DecidableEq

namespace Metadata

/-- The name by which an object is found: its own, or else the one to be completed, or else none. -/
def anyName (m : Metadata) : String := (m.name.or m.generateName).getD ""

def withVersion (m : Metadata) (n : Nat) : Metadata := { m with version := some n.repr }

end Metadata

/-- Objects that carry metadata which can be looked at and replaced, and that have an empty form. -/
class Resource (α : Type) where
  metadata : α → Metadata
  withMetadata : α → Metadata → α
  /-- The object without content whose metadata is empty too. -/
  empty : α
  metadata_withMetadata (x : α) (m : Metadata) : metadata (withMetadata x m) = m
  withMetadata_metadata (x : α) : withMetadata x (metadata x) = x
  withMetadata_withMetadata (x : α) (m n : Metadata) :
    withMetadata (withMetadata x m) n = withMetadata x n

namespace Resource

variable {α : Type} [Resource α]

def anyName (x : α) : String := (metadata x).anyName

def version (x : α) : Option String := (metadata x).version

/-- The object at a given version. -/
def withVersion (x : α) (n : Nat) : α := withMetadata x ((metadata x).withVersion n)

/-- The empty object of a name and a namespace. -/
def named (name : String) (namespaceName : Option String) : α :=
  withMetadata empty { name := some name, namespaceName }

end Resource

end TrustAnchor
