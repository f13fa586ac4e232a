import TrustAnchor.Error
import TrustAnchor.Retry.Schedule
import TrustAnchor.Text.Blank

/-! The settings of the controller and the conditions under which it can run with them. -/

namespace TrustAnchor

structure Settings where
  /-- Where the secrets are. -/
  namespaceName : String := "webhook-system"
  /-- The secret that stores the authority. -/
  caSecret : String := "webhook-ca"
  /-- The secret that stores the certificate issued under the authority. -/
  leafSecret : String := "webhook-tls"
  mutatingConfiguration : String := "webhook-ca-mutating-webhook-configuration"
  validatingConfiguration : String := "webhook-ca-validating-webhook-configuration"
  commonName : String := "webhook-ca"
  organization : String := "webhook-ca"
  validityDays : Nat := 365
  conflictAttempts : Nat := 4
  maxRequeueSeconds : Nat := 86400
  deriving DecidableEq, Repr

namespace Settings

/-- How long new authorities are valid. -/
def validity (s : Settings) : Duration := .ofSeconds (s.validityDays * 86400)

/-- The longest validity, a hundred years. -/
def maxValidity : Duration := .ofSeconds (36500 * 86400)

/-- The schedule of every write. -/
def schedule (s : Settings) : Schedule :=
  { Schedule.onConflict with maxAttempts := s.conflictAttempts }

/-- The longest time between two looks at the authority. -/
def maxRequeue (s : Settings) : Duration := .ofSeconds s.maxRequeueSeconds

/-- What keeps the controller from running. -/
inductive Fault where
  | blank (flag : String)
  | sameSecret
  | noValidity
  | longValidity
  | noAttempts
  | noRequeue
  deriving DecidableEq, Repr

def Fault.message : Fault → String
  | .blank flag => flag ++ " must not be empty"
  | .sameSecret => "--ca-secret-name and --tls-secret-name must differ"
  | .noValidity => "--ca-validity-days must be at least 1"
  | .longValidity =>
    "--ca-validity-days must be at most " ++ (maxValidity.seconds / 86400).repr
  | .noAttempts => "--conflict-retry-attempts must be at least 1"
  | .noRequeue => "--max-requeue-secs must be at least 1"

/-- The names that must not be blank, each with its flag. -/
def names (s : Settings) : List (String × String) :=
  [("--namespace", s.namespaceName), ("--ca-secret-name", s.caSecret),
    ("--tls-secret-name", s.leafSecret),
    ("--mutating-webhook-configuration", s.mutatingConfiguration),
    ("--validating-webhook-configuration", s.validatingConfiguration),
    ("--ca-common-name", s.commonName)]

/-- The first fault, in the order of the settings. -/
def fault? (s : Settings) : Option Fault :=
  match s.names.find? fun (_, value) => Text.allBlank value with
  | some (flag, _) => some (.blank flag)
  | none =>
    if s.caSecret = s.leafSecret then some .sameSecret
    else if s.validityDays = 0 then some .noValidity
    else if maxValidity.nanos < s.validity.nanos then some .longValidity
    else if s.conflictAttempts = 0 then some .noAttempts
    else if s.maxRequeueSeconds = 0 then some .noRequeue
    else none

/-- Refuses settings that the controller cannot run with. -/
def validate (s : Settings) : Except Error Unit :=
  match s.fault? with
  | some f => .error (.invalid f.message)
  | none => .ok ()

end Settings

end TrustAnchor
