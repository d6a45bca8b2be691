import CardHealth.Http.Request
import CardHealth.Text.Percent

/-!
# Routes

The service has three endpoints.  `Route.find` says what becomes of a method and a path: an endpoint
handles the request, or it refuses the method, or the path differs from that of an endpoint in
slashes at its end alone and the client is sent there, or nothing is found.
-/

namespace CardHealth.Http

/-- What the service can be asked for. -/
inductive Endpoint where
  | root
  | health
  | data
  deriving DecidableEq, Repr

namespace Endpoint

/-- The endpoints, in the order in which they are tried. -/
def all : List Endpoint :=
  [.health, .data, .root]

/-- The path of an endpoint. -/
def path : Endpoint → String
  | .root => "/"
  | .health => "/api/health"
  | .data => "/api/data"

/-- The methods of an endpoint, in alphabetical order. -/
def methods : Endpoint → List String
  | .root | .health => ["GET"]
  | .data => ["DELETE", "GET", "HEAD", "PATCH", "POST", "PUT"]

/-- Whether a path is that of an endpoint; a line feed at its end is passed over. -/
def isAt (e : Endpoint) (path : List Char) : Bool :=
  path == e.path.toList || path == e.path.toList ++ ['\n']

/-- The endpoint at a path. -/
def at? (path : List Char) : Option Endpoint :=
  all.find? (isAt · path)

end Endpoint

/-- What becomes of a request. -/
inductive Route where
  | handled (endpoint : Endpoint)
  | methodRefused (endpoint : Endpoint)
  | moved (path : List Char)
  | notFound
  deriving DecidableEq, Repr

/-- A path without the slashes at its end, or with one if it has none. -/
def toggleSlash (path : List Char) : List Char :=
  if path.getLast? = some '/' then (path.reverse.dropWhile (· == '/')).reverse else path ++ ['/']

/-- What becomes of a request with a method and a path without percent escapes. -/
def Route.find (method : String) (path : List Char) : Route :=
  match Endpoint.at? path with
  | some endpoint =>
    if endpoint.methods.contains method then .handled endpoint else .methodRefused endpoint
  | none =>
    if path != ['/'] && (Endpoint.at? (toggleSlash path)).isSome then .moved (toggleSlash path)
    else .notFound

/-! ### Locations -/

/-- Whether a text is the name of a host, or its address between brackets. -/
def isHostName (s : List Char) : Bool :=
  match s with
  | '[' :: inner =>
    let isHex (c : Char) : Bool := (Text.hexValue? c).isSome
    inner.getLast? == some ']' &&
      (inner.dropWhile isHex).head? == some ':' &&
      2 < (inner.dropWhile isHex).length &&
      inner.dropLast.all fun c => isHex c || c == ':' || c == '.'
  | _ => !s.isEmpty && s.all fun c => c.isAlphanum || c == '.' || c == '-'

/-- Whether a text names a host, and maybe a port after a colon. -/
def isHost (s : List Char) : Bool :=
  isHostName s ||
    match s.reverse.dropWhile Char.isDigit with
    | ':' :: name => (s.getLast?.any Char.isDigit) && isHostName name.reverse
    | _ => false

/-- The name under which the service is reached if a request does not tell it. -/
def defaultHost : String := "testserver"

/-- The host that a request was sent to. -/
def Request.host (r : Request) : String :=
  match r.header? "host" with
  | some host => if isHost host.toList then host else defaultHost
  | none => defaultHost

/-- The marks that stay unescaped in a location. -/
def isLocationMark (c : Char) : Bool :=
  ":/%#?=@[]!$&'()*+,;".toList.contains c

/-- The location of another path on the host of a request, with the same query. -/
def Request.locationOf (r : Request) (path : List Char) : String :=
  let query :=
    if r.query.isEmpty then "" else "?" ++ String.ofList (Text.decodeUtf8Lossy r.query)
  Text.percentEncode isLocationMark ("http://" ++ r.host ++ String.ofList path ++ query)

end CardHealth.Http
