import CardHealth.Http.Request
import CardHealth.Http.Response

/-!
# Cross-origin access

Pages of every origin may use the service with a fixed list of methods and any header fields, but
without credentials.  A browser asks first with a preflight request, which `preflight` answers
whatever its path; `decorate` marks the responses to all other requests.
-/

namespace CardHealth.Http.Cors

/-- The methods that pages of other origins may use. -/
def methods : List String :=
  ["GET", "HEAD", "POST", "PUT", "PATCH", "DELETE"]

/-- The field that opens a response to pages of every origin. -/
def allowEveryOrigin : String × String :=
  ("access-control-allow-origin", "*")

/-- Whether a request comes from a page. -/
def hasOrigin (r : Request) : Bool :=
  (r.header? "origin").isSome

/-- Whether a request asks for leave to make another one. -/
def isPreflight (r : Request) : Bool :=
  r.method == "OPTIONS" && hasOrigin r && (r.header? "access-control-request-method").isSome

/-- What a preflight request asks for in vain. -/
def refusals (r : Request) : List String :=
  let method := (r.header? "access-control-request-method").getD ""
  let asksForNetwork := (r.header? "access-control-request-private-network").isSome
  (if methods.contains method then [] else ["method"]) ++
    (if asksForNetwork then ["private-network"] else [])

/-- The fields of every response to a preflight request. -/
def preflightHeaders (r : Request) : List (String × String) :=
  [allowEveryOrigin,
   ("access-control-allow-methods", String.intercalate ", " methods),
   ("access-control-max-age", "600"),
   ("vary",
     "Origin, Access-Control-Request-Method, Access-Control-Request-Headers, " ++
       "Access-Control-Request-Private-Network")] ++
  (match r.header? "access-control-request-headers" with
    | some names => [("access-control-allow-headers", names)]
    | none => [])

/-- The response to a preflight request. -/
def preflight (r : Request) : Response :=
  let response :=
    match refusals r with
    | [] => Response.plain 200 "OK"
    | several => Response.plain 400 ("Disallowed CORS " ++ String.intercalate ", " several)
  response.withHeaders (preflightHeaders r)

/-- A response marked for the page that a request comes from. -/
def decorate (r : Request) (response : Response) : Response :=
  response.withHeaders
    (("vary", "Origin") :: if hasOrigin r then [allowEveryOrigin] else [])

end CardHealth.Http.Cors
