import TrustAnchor.Settings
import TrustAnchor.Text.Number

/-! The flags of the program. Ten of them set one field of the settings each; a field that is not
set on the command line is taken from an environment variable, and else from a text that the flag
brings along. -/

namespace TrustAnchor.CommandLine

/-- A field of the settings. -/
inductive Setting where
  | namespaceName
  | caSecret
  | leafSecret
  | mutatingConfiguration
  | validatingConfiguration
  | commonName
  | organization
  | validityDays
  | conflictAttempts
  | maxRequeueSeconds
  deriving DecidableEq, Repr

namespace Setting

/-- In the order in which the help lists them. -/
def all : List Setting :=
  [.namespaceName, .caSecret, .leafSecret, .mutatingConfiguration, .validatingConfiguration,
    .commonName, .organization, .validityDays, .conflictAttempts, .maxRequeueSeconds]

/-- The name of the flag, without the dashes. -/
def label : Setting → String
  | .namespaceName => "namespace"
  | .caSecret => "ca-secret-name"
  | .leafSecret => "tls-secret-name"
  | .mutatingConfiguration => "mutating-webhook-configuration"
  | .validatingConfiguration => "validating-webhook-configuration"
  | .commonName => "ca-common-name"
  | .organization => "ca-organization"
  | .validityDays => "ca-validity-days"
  | .conflictAttempts => "conflict-retry-attempts"
  | .maxRequeueSeconds => "max-requeue-secs"

/-- The environment variable that stands in for the flag. -/
def variableName : Setting → String
  | .namespaceName => "WEBHOOK_CA_NAMESPACE"
  | .caSecret => "WEBHOOK_CA_SECRET_NAME"
  | .leafSecret => "WEBHOOK_CA_TLS_SECRET_NAME"
  | .mutatingConfiguration => "WEBHOOK_CA_MUTATING_WEBHOOK_CONFIGURATION"
  | .validatingConfiguration => "WEBHOOK_CA_VALIDATING_WEBHOOK_CONFIGURATION"
  | .commonName => "WEBHOOK_CA_COMMON_NAME"
  | .organization => "WEBHOOK_CA_ORGANIZATION"
  | .validityDays => "WEBHOOK_CA_VALIDITY_DAYS"
  | .conflictAttempts => "WEBHOOK_CA_CONFLICT_RETRY_ATTEMPTS"
  | .maxRequeueSeconds => "WEBHOOK_CA_MAX_REQUEUE_SECS"

/-- What the help says. -/
def purpose : Setting → String
  | .namespaceName => "Namespace of the CA and leaf TLS secrets"
  | .caSecret => "Secret holding the CA certificate and key"
  | .leafSecret =>
    "Secret holding the webhook serving certificate, emptied whenever the CA rotates"
  | .mutatingConfiguration => "MutatingWebhookConfiguration that receives the CA bundle"
  | .validatingConfiguration => "ValidatingWebhookConfiguration that receives the CA bundle"
  | .commonName => "Common name of generated CAs"
  | .organization => "Organization of generated CAs"
  | .validityDays => "Validity of generated CAs in days"
  | .conflictAttempts => "Attempts per write before a version conflict is reported"
  | .maxRequeueSeconds => "Upper bound on the requeue interval in seconds"

/-- The field as a text that `assign` reads back. -/
def value (s : Settings) : Setting → String
  | .namespaceName => s.namespaceName
  | .caSecret => s.caSecret
  | .leafSecret => s.leafSecret
  | .mutatingConfiguration => s.mutatingConfiguration
  | .validatingConfiguration => s.validatingConfiguration
  | .commonName => s.commonName
  | .organization => s.organization
  | .validityDays => s.validityDays.repr
  | .conflictAttempts => s.conflictAttempts.repr
  | .maxRequeueSeconds => s.maxRequeueSeconds.repr

/-- What `assign` reads when neither a flag nor a variable sets the field. -/
def fallback : Setting → String
  | .namespaceName => "webhook-system"
  | .caSecret => "webhook-ca"
  | .leafSecret => "webhook-tls"
  | .mutatingConfiguration => "webhook-ca-mutating-webhook-configuration"
  | .validatingConfiguration => "webhook-ca-validating-webhook-configuration"
  | .commonName => "webhook-ca"
  | .organization => "webhook-ca"
  | .validityDays => "365"
  | .conflictAttempts => "4"
  | .maxRequeueSeconds => "86400"

/-- A number of 32 bits. It is read with twice the bits, so a number out of range is named. -/
def number32 (text : String) : Except String Nat :=
  match Text.integer64 text.toList with
  | .error f => .error f.message
  | .ok n =>
    if 0 ≤ n ∧ n ≤ 4294967295 then .ok n.toNat
    else .error (toString n ++ " is not in 0..=4294967295")

/-- A number of 64 bits. -/
def number64 (text : String) : Except String Nat :=
  (Text.natural (Nat.pow 2 64 - 1) text.toList).mapError (·.message)

/-- Sets the field to what a text says, or tells what is wrong with the text. -/
def assign (text : String) (s : Settings) : Setting → Except String Settings
  | .namespaceName => .ok { s with namespaceName := text }
  | .caSecret => .ok { s with caSecret := text }
  | .leafSecret => .ok { s with leafSecret := text }
  | .mutatingConfiguration => .ok { s with mutatingConfiguration := text }
  | .validatingConfiguration => .ok { s with validatingConfiguration := text }
  | .commonName => .ok { s with commonName := text }
  | .organization => .ok { s with organization := text }
  | .validityDays => return { s with validityDays := ← number32 text }
  | .conflictAttempts => return { s with conflictAttempts := ← number32 text }
  | .maxRequeueSeconds => return { s with maxRequeueSeconds := ← number64 text }

end Setting

/-- A flag without a value. -/
inductive Switch where
  | logJson
  | help
  | version
  deriving DecidableEq, Repr

namespace Switch

def label : Switch → String
  | .logJson => "log-json"
  | .help => "help"
  | .version => "version"

/-- The letter that stands for the switch behind a single dash. -/
def letter? : Switch → Option Char
  | .logJson => none
  | .help => some 'h'
  | .version => some 'V'

def variableName? : Switch → Option String
  | .logJson => some "WEBHOOK_CA_LOG_JSON"
  | .help | .version => none

def purpose : Switch → String
  | .logJson => "Emit logs as JSON lines"
  | .help => "Print help"
  | .version => "Print version"

end Switch

/-- A flag sets a field or is a switch. -/
inductive Flag where
  | setting (field : Setting)
  | switch (s : Switch)
  deriving DecidableEq, Repr

namespace Flag

/-- All flags, in the order in which the help lists them. -/
def all : List Flag :=
  Setting.all.map .setting ++ [.switch .logJson, .switch .help, .switch .version]

/-- The flags of a program that has the settings and nothing else. -/
def settingsOnly : List Flag := Setting.all.map .setting ++ [.switch .help]

def label : Flag → String
  | .setting f => f.label
  | .switch s => s.label

def variableName? : Flag → Option String
  | .setting f => some f.variableName
  | .switch s => s.variableName?

def letter? : Flag → Option Char
  | .setting _ => none
  | .switch s => s.letter?

def purpose : Flag → String
  | .setting f => f.purpose
  | .switch s => s.purpose

/-- The name that stands for the value of a flag. -/
def valueName (label : String) : String := label.map fun c => if c = '-' then '_' else c.toUpper

/-- What stands behind the name of the flag for its value. -/
def placeholder : Flag → String
  | .setting f => " <" ++ valueName f.label ++ ">"
  | .switch _ => ""

/-- The flag with its dashes, and with a name for its value. -/
def shape (f : Flag) : String := "--" ++ f.label ++ f.placeholder

end Flag

end TrustAnchor.CommandLine
