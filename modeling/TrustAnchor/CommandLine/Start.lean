import TrustAnchor.CommandLine.Usage
import TrustAnchor.Discovery

/-! The start of the program: it reads its settings, refuses those that it cannot run with, and
looks for the API server. -/

namespace TrustAnchor.CommandLine

/-- What a process leaves behind. -/
structure Outcome where
  exitCode : Nat
  output : String := ""
  complaint : String := ""
  deriving DecidableEq, Repr

/-- The variables that the start depends on. -/
def variableNames : List String :=
  Flag.all.filterMap Flag.variableName?
    ++ ["RUST_LOG", "KUBECONFIG", "HOME", "KUBERNETES_SERVICE_HOST", "KUBERNETES_SERVICE_PORT"]

/-- The first record of the controller: what it looks after. -/
def greeting (s : Settings) : Log.Record where
  level := .info
  target := "webhook_ca"
  message := "webhook-ca controller starting..."
  fields := [⟨"namespace", s.namespaceName, []⟩, ⟨"ca_secret", s.caSecret, []⟩,
    ⟨"tls_secret", s.leafSecret, []⟩]

/-- Runs the controller with valid settings; `stamp` is the time on its records. -/
def launch (stamp : String) (vars : Variables) (choice : Choice) : Outcome :=
  let filter := Log.Filter.ofVariable (vars.lookup "RUST_LOG")
  let write := if choice.logJson then Log.Record.jsonLine stamp else Log.Record.line stamp
  let records := [greeting choice.settings, Discovery.record vars].filter fun r =>
    filter.letsThrough r.level r.target r.fieldNames
  { exitCode := 1
    output := String.join (records.map write)
    complaint := "Error: Failed to create Kubernetes client: " ++ Discovery.message vars ++ "\n" }

/-- The whole start. Refused arguments have an exit code of their own. No style is shown. -/
def start (stamp : String) (vars : Variables) (args : List String) : Outcome :=
  match parse Flag.all args vars with
  | .error .help => { exitCode := 0, output := Markup.plain (help vars) }
  | .error .version => { exitCode := 0, output := programName ++ " " ++ programVersion ++ "\n" }
  | .error (.fault f) => { exitCode := 2, complaint := Markup.plain f.complaint.text }
  | .ok choice =>
    match choice.settings.validate with
    | .error e =>
      { exitCode := 1, complaint := "Error: Invalid configuration: " ++ e.message ++ "\n" }
    | .ok _ => launch stamp vars choice

end TrustAnchor.CommandLine
