import TrustAnchor.Error

/-! A store of objects in memory that decides between writers by versions: every write gives its
object a new version, and a replacement has to carry the version that it replaces. Failures can be
ordered in advance. -/

namespace TrustAnchor

structure Store (α : Type) where
  /-- Each object under its name. -/
  objects : KeyMap α := .empty
  nextVersion : Nat := 1
  /-- So many writes will be refused as if another writer had been faster. -/
  pendingConflicts : Nat := 0
  /-- The code with which all reads fail. -/
  readFailure : Option Nat := none
  /-- The code with which all writes fail. -/
  writeFailure : Option Nat := none
  /-- Reads so far, failed ones too. -/
  gets : Nat := 0
  /-- Successful creations and replacements so far. -/
  writes : Nat := 0

namespace Store

variable {α : Type} [Resource α]

/-- The store with an object at a new version, under its name. -/
def put (s : Store α) (x : α) : Store α :=
  { s with
    objects := s.objects.insert (Resource.anyName x) x
    nextVersion := s.nextVersion + 1 }

/-- Another writer's write: it is not counted and always succeeds. -/
def insert (s : Store α) (x : α) : Store α := s.put (Resource.withVersion x s.nextVersion)

def get (s : Store α) (name : String) : Except Error (Option α) × Store α :=
  let s := { s with gets := s.gets + 1 }
  match s.readFailure with
  | some code => (.error (.api code "Injected"), s)
  | none => (.ok (s.objects.get? name), s)

/-- Whether a write goes on: not if a failure or a conflict has been ordered. -/
def admitWrite (s : Store α) : Except Error Unit × Store α :=
  match s.writeFailure, s.pendingConflicts with
  | some code, _ => (.error (.api code "Injected"), s)
  | none, n + 1 => (.error (.api 409 "Conflict"), { s with pendingConflicts := n })
  | none, 0 => (.ok (), s)

/-- A write that goes on: the object at a new version, counted. -/
def write (s : Store α) (x : α) : α × Store α :=
  let x := Resource.withVersion x s.nextVersion
  (x, { s.put x with writes := s.writes + 1 })

/-- Adds an object unless there is one of its name. -/
def create (s : Store α) (x : α) : Except Error α × Store α :=
  match s.admitWrite with
  | (.error e, s) => (.error e, s)
  | (.ok _, s) =>
    if s.objects.contains (Resource.anyName x) then (.error (.api 409 "AlreadyExists"), s)
    else
      let (x, s) := s.write x
      (.ok x, s)

/-- Replaces the object of the same name if it is at the same version. -/
def replace (s : Store α) (x : α) : Except Error α × Store α :=
  match s.admitWrite with
  | (.error e, s) => (.error e, s)
  | (.ok _, s) =>
    match s.objects.get? (Resource.anyName x) with
    | none => (.error (.api 404 "NotFound"), s)
    | some current =>
      if Resource.version x ≠ Resource.version current then (.error (.api 409 "Conflict"), s)
      else
        let (x, s) := s.write x
        (.ok x, s)

end Store

end TrustAnchor
