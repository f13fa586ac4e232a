import TrustAnchor.Api.Exchange
import TrustAnchor.Environment

/-! An API server that answers from a list of prepared responses, and a record of what it was
asked. -/

namespace TrustAnchor.Api

/-- A prepared response. -/
inductive Reply where
  | fixed (status : Nat) (text : String)
  /-- The body of the request itself. -/
  | echo (status : Nat)
  deriving DecidableEq, Repr

def Reply.response (r : HttpRequest) : Reply → HttpResponse
  | .fixed status text => ⟨status, text⟩
  | .echo status => ⟨status, ((r.body.map Json.text).getD "")⟩

/-- The response to a request that nothing was prepared for. -/
def unprepared : HttpResponse :=
  let report : Json := .obj [("apiVersion", .str "v1"), ("code", .int 404), ("kind", .str "Status"),
    ("message", .str "no script"), ("reason", .str "NotFound"), ("status", .str "Failure")]
  ⟨404, report.text⟩

structure Server where
  /-- The namespace of the client that asks. -/
  namespaceName : String
  /-- Responses to a method and a path, in order; the last is given again and again. -/
  replies : List ((String × String) × List Reply)
  received : List HttpRequest := []

namespace Server

/-- The next of some prepared responses, and what is left of them. -/
private def next : List Reply → Option (Reply × List Reply)
  | [] => none
  | [r] => some (r, [r])
  | r :: rest => some (r, rest)

private def take (key : String × String) :
    List ((String × String) × List Reply) → Option Reply × List ((String × String) × List Reply)
  | [] => (none, [])
  | (k, replies) :: rest =>
    if k = key then
      match next replies with
      | some (r, left) => (some r, (k, left) :: rest)
      | none => (none, (k, []) :: rest)
    else
      let (found, rest) := take key rest
      (found, (k, replies) :: rest)

/-- The response to a request. -/
def respond (s : Server) (r : HttpRequest) : HttpResponse × Server :=
  let (reply, replies) := take (r.method, r.path) s.replies
  ((reply.map (·.response r)).getD unprepared, { s with replies, received := s.received ++ [r] })

/-- The server as a backend. -/
def backend : Backend Server := fun k c s =>
  match request s.namespaceName k c with
  | .error e => (.ok (refused e c), s)
  | .ok r =>
    let (response, s) := s.respond r
    (.ok (answer k response c), s)

end Server

end TrustAnchor.Api
