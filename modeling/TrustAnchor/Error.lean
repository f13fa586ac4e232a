import TrustAnchor.Authority.Basic
import TrustAnchor.Resource.Kind
import TrustAnchor.Text.Quoted
import TrustAnchor.Url

/-! What can keep the controller from its goal. An error may wrap the error that caused it; of all
errors only a version conflict, as the API server itself reports it, is worth another attempt. -/

namespace TrustAnchor

/-- An answer of the API server that reports a failure. -/
structure ApiError where
  status : String := "Failure"
  message : String
  reason : String
  code : Nat
  deriving DecidableEq, Repr

namespace ApiError

/-- A failure that is known by its code and its reason alone. -/
def ofReason (code : Nat) (reason : String) : ApiError :=
  { message := reason ++ " (" ++ code.repr ++ ")", reason, code }

/-- Message and reason. -/
def summary (e : ApiError) : String := e.message ++ ": " ++ e.reason

/-- All that is known of the failure. -/
def details (e : ApiError) : String :=
  "ErrorResponse \x7b status: " ++ Text.quoted e.status ++ ", message: " ++ Text.quoted e.message
    ++ ", reason: " ++ Text.quoted e.reason ++ ", code: " ++ e.code.repr ++ " \x7d"

end ApiError

/-- Why a request could not even be formed. -/
inductive RequestFault where
  | emptyName
  | address (fault : Url.Fault)
  deriving DecidableEq, Repr

def RequestFault.message : RequestFault → String
  | .emptyName => "failed to validate request: A non-empty name is required"
  | .address fault => "failed to build request: " ++ fault.message

/-- A failure in talking to the API server. -/
inductive ClientError where
  | api (e : ApiError)
  | lineTooLong
  | tlsRequired
  | request (fault : RequestFault)
  /-- The answer is not what was asked for. -/
  | response (text : String)
  deriving DecidableEq, Repr

namespace ClientError

def message : ClientError → String
  | .api e => "ApiError: " ++ e.summary ++ " (" ++ e.details ++ ")"
  | .lineTooLong => "Error finding newline character"
  | .tlsRequired => "TLS required but no TLS stack selected"
  | .request fault => "Failed to build request: " ++ fault.message
  | .response text => "Error deserializing response: " ++ text

end ClientError

/-- What went wrong at a place that is known by kind and name. -/
structure Failed (ε : Type) where
  kind : String
  name : String
  error : ε
  deriving DecidableEq, Repr

inductive Error where
  | client (e : ClientError)
  | authority (e : AuthorityError)
  | missing (kind name : String)
  /-- A write lost to other writers at each of its attempts. -/
  | conflictExhausted (operation : String) (attempts : Nat) (last : Error)
  /-- Some of the targets did not receive the bundle. -/
  | propagation (failures : List (Failed Error)) (targets : Nat)
  /-- The certificate issued under a replaced authority could not be withdrawn. -/
  | cascade (secret : String) (cause : Error)
  | invalid (text : String)
  /-- A task ended without a result. -/
  | task (text : String)

namespace Error

def api (code : Nat) (reason : String) : Error := .client (.api (.ofReason code reason))

def missingResource (k : Kind) (name : String) : Error := .missing k.text name

/-- The API server refused a write because of the version it carried. -/
def isConflict : Error → Bool
  | .client (.api e) => e.code = 409
  | _ => false

mutual
def message : Error → String
  | .client e => "kubernetes error: " ++ e.message
  | .authority e => "pki error: " ++ e.message
  | .missing kind name => kind ++ " " ++ name ++ " not found"
  | .conflictExhausted operation attempts _ =>
    operation ++ ": still conflicting after " ++ attempts.repr ++ " attempts"
  | .propagation failures targets =>
    "ca bundle propagation failed for " ++ failures.length.repr ++ " of " ++ targets.repr
      ++ " targets: " ++ String.intercalate "; " (failureMessages failures)
  | .cascade secret cause =>
    "failed to invalidate leaf secret " ++ secret ++ " after CA rotation: " ++ message cause
  | .invalid text => "validation error: " ++ text
  | .task text => "task error: " ++ text

def failureMessages : List (Failed Error) → List String
  | [] => []
  | ⟨kind, name, error⟩ :: rest =>
    (kind ++ "/" ++ name ++ ": " ++ message error) :: failureMessages rest
end

/-- The causes of an error, each with its message, from the nearest to the first. -/
def causes : Error → List String
  | .client e => e.message :: (match e with
    | .api e => [e.summary]
    | .request fault => [fault.message]
    | .response text => [text]
    | .lineTooLong | .tlsRequired => [])
  | .authority e => [e.message]
  | .conflictExhausted _ _ last => last.message :: causes last
  | .cascade _ cause => cause.message :: causes cause
  | .missing .. | .propagation .. | .invalid _ | .task _ => []

end Error

end TrustAnchor
