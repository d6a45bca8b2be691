import CardHealth.Json

/-!
# Responses
-/

namespace CardHealth.Http

/-- A response of the service. -/
structure Response where
  status : Nat
  /-- The names, in small letters, and the values of the header fields. -/
  headers : List (String × String)
  body : String
  deriving DecidableEq, Repr

namespace Response

/-- A response whose body is a text of a media type. -/
def ofBody (status : Nat) (mediaType body : String) : Response where
  status
  headers := [("content-length", Numeral.render body.utf8ByteSize), ("content-type", mediaType)]
  body

/-- A response with a JSON body. -/
def json (status : Nat) (content : Json) : Response :=
  ofBody status "application/json" content.render

/-- A response with a body of plain text. -/
def plain (status : Nat) (text : String) : Response :=
  ofBody status "text/plain; charset=utf-8" text

/-- A response that says what is wrong with a request. -/
def detail (status : Nat) (message : String) : Response :=
  json status (.object [("detail", .string message)])

/-- A response that sends the client to another location, with the same method. -/
def redirect (location : String) : Response where
  status := 307
  headers := [("content-length", "0"), ("location", location)]
  body := ""

/-- The response to a request that could not be handled. -/
def internalError : Response :=
  plain 500 "Internal Server Error"

/-- A response with more header fields. -/
def withHeaders (r : Response) (headers : List (String × String)) : Response :=
  { r with headers := r.headers ++ headers }

/-- The value of the first header field with a name. -/
def header? (r : Response) (name : String) : Option String :=
  (r.headers.find? fun h => h.1 == name).map (·.2)

end Response

end CardHealth.Http
