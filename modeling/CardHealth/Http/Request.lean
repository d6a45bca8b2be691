import CardHealth.Bytes
import CardHealth.Text.AsciiCase

/-!
# Requests
-/

namespace CardHealth.Http

/-- A request to the service. -/
structure Request where
  method : String
  /-- The path as it was sent, with percent escapes. -/
  path : String
  /-- The query without its question mark. -/
  query : Bytes
  /-- The names, in small letters, and the values of the header fields. -/
  headers : List (String × String)
  body : Bytes
  deriving DecidableEq, Repr

namespace Request

/-- The value of the first header field with a name. -/
def header? (r : Request) (name : String) : Option String :=
  (r.headers.find? fun h => h.1 == name).map (·.2)

/-- The request for a path, without headers and body. -/
def ofPath (path : String) : Request :=
  ⟨"GET", path, [], [], []⟩

end Request

end CardHealth.Http
