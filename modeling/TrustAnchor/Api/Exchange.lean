import TrustAnchor.Api.Schema
import TrustAnchor.Json.Printer
import TrustAnchor.Json.Reader
import TrustAnchor.Script.Request

/-! Calls on the API server: the request that a call leads to, and the answer that a response
amounts to. -/

namespace TrustAnchor.Api

structure HttpRequest where
  method : String
  path : String
  query : Option String
  body : Option Json
  deriving DecidableEq

/-- Path and query as they were sent. -/
def HttpRequest.address (r : HttpRequest) : String :=
  match r.query with
  | some q => r.path ++ "?" ++ q
  | none => r.path

structure HttpResponse where
  status : Nat
  text : String
  deriving DecidableEq, Repr

/-- The path under which the objects of a kind are found. Secrets belong to a namespace. -/
def collectionPath (namespaceName : String) : Kind → String
  | .secret => "/api/" ++ apiVersion .secret ++ "/namespaces/" ++ namespaceName ++ "/secrets"
  | .webhook kind =>
    "/apis/" ++ apiVersion (.webhook kind) ++ match kind with
      | .mutating => "/mutatingwebhookconfigurations"
      | .validating => "/validatingwebhookconfigurations"

/-- Under this name the controller's writes are recorded. -/
def fieldManager : String := "webhook-ca-controller"

/-- The request for an address. -/
def HttpRequest.ofAddress (method address : String) (body : Option Json) :
    Except RequestFault HttpRequest :=
  if Url.maxLength < address.utf8ByteSize then .error (.address .tooLong)
  else
    match Url.splitPath address.toList with
    | .error fault => .error (.address fault)
    | .ok (path, query) =>
      .ok { method, path := String.ofList path, query := query.map String.ofList, body }

/-- The request that a call leads to. Replacing needs a name of the object's own, and looking for an
object needs one that is not empty. -/
def request (namespaceName : String) (k : Kind) (c : Call k.Object) : Except Error HttpRequest :=
  let base := collectionPath namespaceName k
  let manager := "?&fieldManager=" ++ fieldManager
  let build (method address : String) (body : Option Json) : Except Error HttpRequest :=
    (HttpRequest.ofAddress method address body).mapError fun fault => .client (.request fault)
  let named (name : String) (go : Except Error HttpRequest) : Except Error HttpRequest :=
    if name.isEmpty then .error (.client (.request .emptyName)) else go
  match c with
  | .get name => named name (build "GET" (base ++ "/" ++ name) none)
  | .create x => build "POST" (base ++ manager) (some (encode k x))
  | .replace x =>
    match (Resource.metadata x).name with
    | none => .error (.invalid "cannot replace an object without a name")
    | some name => named name (build "PUT" (base ++ "/" ++ name ++ manager) (some (encode k x)))

/-- The phrase that belongs to a status. -/
def statusPhrase : Nat → String
  | 400 => "Bad Request"
  | 401 => "Unauthorized"
  | 402 => "Payment Required"
  | 403 => "Forbidden"
  | 404 => "Not Found"
  | 405 => "Method Not Allowed"
  | 406 => "Not Acceptable"
  | 407 => "Proxy Authentication Required"
  | 408 => "Request Timeout"
  | 409 => "Conflict"
  | 410 => "Gone"
  | 411 => "Length Required"
  | 412 => "Precondition Failed"
  | 413 => "Payload Too Large"
  | 414 => "URI Too Long"
  | 415 => "Unsupported Media Type"
  | 416 => "Range Not Satisfiable"
  | 417 => "Expectation Failed"
  | 418 => "I'm a teapot"
  | 421 => "Misdirected Request"
  | 422 => "Unprocessable Entity"
  | 423 => "Locked"
  | 424 => "Failed Dependency"
  | 425 => "Too Early"
  | 426 => "Upgrade Required"
  | 428 => "Precondition Required"
  | 429 => "Too Many Requests"
  | 431 => "Request Header Fields Too Large"
  | 451 => "Unavailable For Legal Reasons"
  | 500 => "Internal Server Error"
  | 501 => "Not Implemented"
  | 502 => "Bad Gateway"
  | 503 => "Service Unavailable"
  | 504 => "Gateway Timeout"
  | 505 => "HTTP Version Not Supported"
  | 506 => "Variant Also Negotiates"
  | 507 => "Insufficient Storage"
  | 508 => "Loop Detected"
  | 510 => "Not Extended"
  | 511 => "Network Authentication Required"
  | _ => "<unknown status code>"

/-- A member of a failure report. -/
private inductive ReportPart where
  | status (text : String)
  | message (text : String)
  | reason (text : String)
  | code (n : Nat)
  | other

/-- The code of a failure report has sixteen bits. -/
private def readCode (fuel : Nat) : Json.Reader Nat := fun text => do
  match ← Json.Scan.value fuel 0 text with
  | (.int n, rest) =>
    if 0 ≤ n ∧ n < 65536 then return (n.toNat, rest) else Json.Scan.failBefore .invalidNumber rest
  | (_, rest) => Json.Scan.failBefore .invalidNumber rest

private def readReportPart (fuel : Nat) (name : String) : Json.Reader ReportPart := fun text => do
  let aText : Json.Reader String := Shape.readText fuel "a string"
  match name with
  | "status" => return (← aText text).map .status id
  | "message" => return (← aText text).map .message id
  | "reason" => return (← aText text).map .reason id
  | "code" => return (← readCode fuel text).map .code id
  | _ => return (.other, ← Json.Scan.skip fuel text)

/-- The only part of a kind, if there is one, and nothing if there are more. -/
private def only? {α : Type} (pick : ReportPart → Option α) (parts : List ReportPart) :
    Option (Option α) :=
  match parts.filterMap pick with
  | [] => some none
  | [x] => some (some x)
  | _ => none

private def reportOf? (parts : List ReportPart) : Option ApiError := do
  let status ← only? (fun | .status s => some s | _ => none) parts
  let message ← only? (fun | .message s => some s | _ => none) parts
  let reason ← only? (fun | .reason s => some s | _ => none) parts
  let code ← only? (fun | .code n => some n | _ => none) parts
  return {
    status := ← status, message := message.getD "", reason := reason.getD "", code := ← code }

/-- The parts of a failure report by name, or in order. -/
private def readReport (fuel : Nat) : Json.Reader (List ReportPart) := fun text => do
  match ← Json.Scan.start text with
  | '\x7b' :: rest => Json.Scan.members (readReportPart fuel) fuel true rest
  | '[' :: rest => inOrder true ["status", "message", "reason", "code"] rest
  | text => Json.Scan.failBefore .expectedValue text
where
  inOrder (isFirst : Bool) : List String → Json.Reader (List ReportPart)
    | [], text => do
      let (more, rest) ← Json.Scan.next ']' .endInList .expectedCommaOrBracket isFirst text
      if more then Json.Scan.failBefore .trailingCharacters rest else return ([], rest)
    | name :: names, text => do
      let (more, rest) ← Json.Scan.next ']' .endInList .expectedCommaOrBracket isFirst text
      if !more then return ([], rest)
      else
        let (part, rest) ← readReportPart fuel name rest
        let (parts, rest) ← inOrder false names rest
        return (part :: parts, rest)

/-- A failure report: no part of it comes twice, and status and code are not missing. -/
def ApiError.ofText? (text : String) : Option ApiError :=
  (Json.readWith readReport text).toOption.bind reportOf?

/-- The failure that a response reports, if its status is one of failure. A text that is no report
is quoted. -/
def failure? (r : HttpResponse) : Option ApiError :=
  if 400 ≤ r.status ∧ r.status < 600 then
    some <| (ApiError.ofText? r.text).getD {
      status := r.status.repr ++ " " ++ statusPhrase r.status
      message := Text.quoted r.text
      reason := "Failed to parse error data"
      code := r.status }
  else none

/-- The object in a response. -/
private def objectOf (k : Kind) (r : HttpResponse) : Except Error k.Object :=
  match failure? r with
  | some e => .error (.client (.api e))
  | none =>
    (decode k r.text).mapError fun text => .client (.response text)

/-- What a response to a call amounts to. An object that was looked for is missing if the report
gives that reason, whatever the status. -/
def answer (k : Kind) (r : HttpResponse) : (c : Call k.Object) → c.Answer
  | .get _ =>
    match failure? r with
    | some e => if e.reason = "NotFound" then .ok none else .error (.client (.api e))
    | none => (objectOf k r).map some
  | .create _ => objectOf k r
  | .replace _ => objectOf k r

/-- The answer to a call whose request could not be made. -/
def refused {α : Type} (e : Error) : (c : Call α) → c.Answer
  | .get _ => .error e
  | .create _ => .error e
  | .replace _ => .error e

end TrustAnchor.Api
