import TrustAnchor.Environment
import TrustAnchor.Store

/-! A cluster in memory: a store for each kind of objects, and for each store a schedule of what
happens just before the calls on it. Calls that a failure keeps from the store leave no trace in
it. -/

namespace TrustAnchor

/-- What happens just before a call. -/
inductive Disturbance (α : Type) where
  | calm
  /-- The call fails and does not reach the store. -/
  | fail (e : Error)
  /-- The caller breaks off. -/
  | panic (text : String)
  /-- Another writer writes an object. -/
  | race (x : α)

/-- What happens before the next reads and the next writes, and what happens before all others. -/
structure Weather (α : Type) where
  reads : List (Disturbance α) := []
  writes : List (Disturbance α) := []
  otherReads : Disturbance α := .calm
  otherWrites : Disturbance α := .calm

/-- The disturbance before a read. -/
def Weather.forRead (w : Weather α) : Disturbance α × Weather α :=
  match w.reads with
  | [] => (w.otherReads, w)
  | d :: rest => (d, { w with reads := rest })

/-- The disturbance before a write. -/
def Weather.forWrite (w : Weather α) : Disturbance α × Weather α :=
  match w.writes with
  | [] => (w.otherWrites, w)
  | d :: rest => (d, { w with writes := rest })

/-- The ways to call a store. -/
inductive Verb where
  | get
  | create
  | replace
  deriving DecidableEq, Repr

def Call.verb : Call α → Verb
  | .get _ => .get
  | .create _ => .create
  | .replace _ => .replace

/-- How a call ended. -/
inductive Ending where
  | done
  /-- There is no object of that name. -/
  | nothing
  | failed (e : Error)
  | panicked

/-- A call that was made. -/
structure Visit where
  verb : Verb
  name : String
  ending : Ending

/-- A store with the calls that were made on it. -/
structure Site (α : Type) where
  store : Store α := {}
  weather : Weather α := {}
  visits : List Visit := []

namespace Site

variable {α : Type} [Resource α]

/-- A call on the store itself. -/
def perform (s : Store α) : (c : Call α) → c.Answer × Store α
  | .get name => s.get name
  | .create x => s.create x
  | .replace x => s.replace x

/-- The answer of a store that a failure came before. -/
def refuse (e : Error) : (c : Call α) → c.Answer
  | .get _ => .error e
  | .create _ => .error e
  | .replace _ => .error e

def endingOf : (c : Call α) → c.Answer → Ending
  | .get _, .ok (some _) => .done
  | .get _, .ok none => .nothing
  | .get _, .error e => .failed e
  | .create _, .ok _ | .replace _, .ok _ => .done
  | .create _, .error e | .replace _, .error e => .failed e

/-- The disturbance before a call. -/
def disturbance (s : Site α) (c : Call α) : Disturbance α × Weather α :=
  if c.isWrite then s.weather.forWrite else s.weather.forRead

/-- A call, after what happens before it. -/
def call (s : Site α) (c : Call α) : Except String c.Answer × Site α :=
  let (d, weather) := s.disturbance c
  let visit (ending : Ending) := s.visits ++ [⟨c.verb, c.name, ending⟩]
  let go (store : Store α) : Except String c.Answer × Site α :=
    let (answer, store) := perform store c
    (.ok answer, { store, weather, visits := visit (endingOf c answer) })
  match d with
  | .calm => go s.store
  | .race x => go (s.store.insert x)
  | .fail e => (.ok (refuse e c), { s with weather, visits := visit (.failed e) })
  | .panic text => (.error text, { s with weather, visits := visit .panicked })

end Site

structure Cluster where
  secrets : Site Secret := {}
  mutating : Site WebhookConfiguration := {}
  validating : Site WebhookConfiguration := {}

namespace Cluster

def site (c : Cluster) : (k : Kind) → Site k.Object
  | .secret => c.secrets
  | .webhook .mutating => c.mutating
  | .webhook .validating => c.validating

def withSite (c : Cluster) : (k : Kind) → Site k.Object → Cluster
  | .secret, s => { c with secrets := s }
  | .webhook .mutating, s => { c with mutating := s }
  | .webhook .validating, s => { c with validating := s }

/-- The cluster as a backend. -/
def backend : Backend Cluster := fun k call c =>
  let (answer, s) := (c.site k).call call
  (answer, c.withSite k s)

/-- Forgets the calls that were made so far. -/
def forget (c : Cluster) : Cluster :=
  { secrets := { c.secrets with visits := [] }
    mutating := { c.mutating with visits := [] }
    validating := { c.validating with visits := [] } }

end Cluster

end TrustAnchor
