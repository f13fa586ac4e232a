import TrustAnchor.Log.Record
import TrustAnchor.Text.Number
import TrustAnchor.Text.Quoted
import TrustAnchor.Url
import TrustAnchor.Variables

/-! How the program looks for the API server: first in a file that the user has, then, as a process
of the cluster would, in the environment. Neither file that a cluster provides can be read here, so
the search ends in a fault that tells both sides of it. -/

namespace TrustAnchor.Discovery

/-- Why the system does not hand out a file. -/
inductive OpenFault where
  | absent
  | notDirectory
  | isDirectory
  | nameTooLong
  deriving DecidableEq, Repr

def OpenFault.message : OpenFault → String
  | .absent => "No such file or directory (os error 2)"
  | .notDirectory => "Not a directory (os error 20)"
  | .isDirectory => "Is a directory (os error 21)"
  | .nameTooLong => "File name too long (os error 36)"

/-- Directories that every system has. -/
def standardDirectories : List String :=
  ["bin", "boot", "dev", "etc", "home", "lib", "media", "mnt", "opt", "proc", "root", "run", "sbin",
    "srv", "sys", "tmp", "usr", "var"]

/-- What comes of opening a path on a system with the standard directories, none of which holds
a file of interest but the null device, which is empty. -/
def openFault? (path : List Char) : Option OpenFault :=
  let names := path.splitOn '/'
  let steps := (names.filter fun s => !s.isEmpty && s ≠ ['.']).dropWhile (· = ['.', '.'])
  let isLong (name : List Char) := 255 < (String.ofList name).utf8ByteSize
  if 4096 ≤ (String.ofList path).utf8ByteSize then some .nameTooLong
  else
    match steps with
    | [] => some .isDirectory
    | first :: rest =>
      if isLong first then some .nameTooLong
      else if path.head? = some '/' && standardDirectories.contains (String.ofList first) then
        match rest with
        | [] => some .isDirectory
        | second :: more =>
          if isLong second then some .nameTooLong
          else if first = "dev".toList && second = "null".toList then
            if more.isEmpty && path.getLast? = some 'l' then none else some .notDirectory
          else some .absent
      else some .absent

/-- Why there is no file of the user. -/
inductive FileFault where
  /-- Nothing tells where the file is. -/
  | noPath
  | unreadable (path : String) (fault : OpenFault)
  /-- The file does not say what it is about. -/
  | noContext
  deriving DecidableEq, Repr

def FileFault.message : FileFault → String
  | .noPath => "failed to find the path of kubeconfig"
  | .unreadable path fault =>
    "failed to read kubeconfig from '" ++ Text.quoted path ++ "': " ++ fault.message
  | .noContext => "failed to determine current context"

/-- A path below a directory. -/
private def below (directory name : String) : String :=
  if directory.toList.getLast? = some '/' then directory ++ name else directory ++ "/" ++ name

/-- The first path of a list of paths; else a file in the home directory. -/
def fileFault (vars : Variables) : FileFault :=
  let paths := (vars.lookup "KUBECONFIG").toList.flatMap fun v => v.toList.splitOn ':'
  let home := (vars.lookup "HOME").filter (· ≠ "")
  let path : Option String := match paths.filter (!·.isEmpty) with
    | path :: _ => some (String.ofList path)
    | [] => home.map (below · ".kube/config")
  match path with
  | none => .noPath
  | some path =>
    match openFault? path.toList with
    | some fault => .unreadable path fault
    | none => .noContext

/-- Why the process is in no cluster. -/
inductive ClusterFault where
  | noVariable
  | badPort (f : Text.NumberFault)
  | badAddress (f : Url.Fault)
  /-- The address is complete, but the namespace of the process is not known. -/
  | noNamespace
  deriving DecidableEq, Repr

def ClusterFault.message : ClusterFault → String
  | .noVariable =>
    "failed to read an incluster environment variable: environment variable not found"
  | .badPort f => "failed to parse cluster port: " ++ f.message
  | .badAddress f => "failed to parse cluster url: " ++ f.message
  | .noNamespace => "failed to read the default namespace: " ++ OpenFault.absent.message

/-- What is wrong with the address of a host and a port. The port that the scheme implies is left
out. -/
def addressFault? (host : String) (port : Nat) : Option Url.Fault :=
  let address := if port = 443 then host else host ++ ":" ++ port.repr
  if Url.isHostNumber host.toList then none
  else if Url.maxLength < "https://".length + address.utf8ByteSize then some .tooLong
  else Url.hostFault? address.toList

/-- Host and port have to be known, then the namespace. -/
def clusterFault (vars : Variables) : ClusterFault :=
  match vars.lookup "KUBERNETES_SERVICE_HOST", vars.lookup "KUBERNETES_SERVICE_PORT" with
  | some host, some port =>
    match Text.natural 65535 port.toList with
    | .error f => .badPort f
    | .ok port =>
      match addressFault? host port with
      | some f => .badAddress f
      | none => .noNamespace
  | _, _ => .noVariable

/-- The fault of the whole search. -/
def message (vars : Variables) : String :=
  "Failed to infer configuration: failed to infer config: in-cluster: ("
    ++ (clusterFault vars).message ++ "), kubeconfig: (" ++ (fileFault vars).message ++ ")"

/-- What the search logs when it turns from the file to the environment. -/
def record (vars : Variables) : Log.Record :=
  let fault := fileFault vars
  let causes := match fault with
    | .unreadable _ fault => [fault.message]
    | .noPath | .noContext => []
  { level := .trace
    target := "kube_client::config"
    message := "no local config found, falling back to local in-cluster config"
    fields := [⟨"error", fault.message, causes⟩] }

end TrustAnchor.Discovery
