import CardHealth.Http.Cors
import CardHealth.Http.Route
import CardHealth.Monitor
import CardHealth.Notice
import CardHealth.Since

/-!
# Answering requests

For the records of the cards, the connection is opened first, then the bound is read, then the query
is made; the first of these that fails decides.  A database that does not answer and a bound that
cannot be told have responses of their own; any other failure, a form header with mixed parts
among them, is raised after a response that tells no more than that there was one.
-/

namespace CardHealth

open Http

/-- The answer to a request: a response, and the failure that is raised after it if there is
one. -/
structure Reply where
  response : Response
  raised : Option Failure

namespace Reply

/-- An answer without a failure, marked for the page that the request comes from. -/
def ofResponse (r : Request) (response : Response) : Reply :=
  ⟨Cors.decorate r response, none⟩

/-- The answer to a request that could not be handled. -/
def ofFailure (f : Failure) : Reply :=
  ⟨Response.internalError, some f⟩

end Reply

namespace Monitor

/-- The response if the database does not answer. -/
def unavailableResponse : Response :=
  .json 500 (NoticeKind.error.toJson Failure.unavailable.message)

/-- The answer to a request whose bound cannot be told. -/
def sinceReply (r : Request) : Since.Error → Reply
  | .notAnInteger => .ofResponse r (.detail 422 Since.Error.notAnInteger.message)
  | .form (.mixedParts firstIsNumbered) => .ofFailure (.form (.mixedParts firstIsNumbered))
  | .form e => .ofResponse r (.detail 400 e.message)

/-- Answers a request for records through a connection. -/
def serveRecords (m : Monitor) (r : Request) (connection : Connection) : Reply × Monitor :=
  match Since.read r with
  | .error e => (sinceReply r e, m)
  | .ok since =>
    match m.records connection since with
    | (.ok records, m) => (.ofResponse r (.json 200 (CardStatus.listToJson records)), m)
    | (.error f, m) => (.ofFailure f, m)

/-- Answers a request for records. -/
def serveData (m : Monitor) (r : Request) : Reply × Monitor :=
  match m.openConnection with
  | (.error .unavailable, m) => (.ofResponse r unavailableResponse, m)
  | (.error f, m) => (.ofFailure f, m)
  | (.ok connection, m) =>
    let (reply, m) := m.serveRecords r connection
    (reply, m.disconnect)

/-- Answers a request that an endpoint handles. -/
def serve (m : Monitor) (r : Request) : Endpoint → Reply × Monitor
  | .root => (.ofResponse r (.json 200 (.object [("app", .string m.appName)])), m)
  | .health => (.ofResponse r (.json 200 (NoticeKind.health.toJson "ok")), m)
  | .data => m.serveData r

/-- The response to a request whose method an endpoint refuses. -/
def methodRefusedResponse (e : Endpoint) : Response :=
  (Response.detail 405 "Method Not Allowed").withHeaders
    [("allow", String.intercalate ", " e.methods)]

/-- Answers a request. -/
def respond (m : Monitor) (r : Request) : Reply × Monitor :=
  if Cors.isPreflight r then (⟨Cors.preflight r, none⟩, m)
  else
    match Route.find r.method (Text.percentDecode r.path.toList) with
    | .handled endpoint => m.serve r endpoint
    | .methodRefused endpoint => (.ofResponse r (methodRefusedResponse endpoint), m)
    | .moved path => (.ofResponse r (.redirect (r.locationOf path)), m)
    | .notFound => (.ofResponse r (.detail 404 "Not Found"), m)

end Monitor

end CardHealth
