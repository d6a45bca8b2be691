import CardHealth.Form.Multipart
import CardHealth.Form.UrlEncoded
import CardHealth.Http.Request
import CardHealth.Numeral

/-!
# The bound of a request

A request may bound the records it asks for to those updated at or after a time.  The bound is the
last field named `since` in the query, or, if the query has no such field, in a form body; it has
to be an integer.  `Since.read` finds it: no field is no bound, and a field that is no integer is an
error, also in the query, where it never lets the body count.
-/

namespace CardHealth.Since

open Http Form

/-- Why the bound of a request cannot be told. -/
inductive Error where
  | notAnInteger
  | form (error : Form.Error)
  deriving DecidableEq, Repr

/-- The message about a bound that cannot be told. -/
def Error.message : Error → String
  | .notAnInteger => "since must be an integer timestamp"
  | .form error => error.message

/-- The name of the field that holds the bound. -/
def fieldName : String := "since"

/-- What a field holds: a text, or a file. -/
inductive Source where
  | text (s : String)
  | file
  deriving DecidableEq, Repr

/-- The bound that a field denotes. -/
def Source.toInt : Source → Except Error Int
  | .file => .error .notAnInteger
  | .text s =>
    match Numeral.read s.toList with
    | .ok n => .ok n
    | .error _ => .error .notAnInteger

/-- The field in the query. -/
def inQuery? (r : Request) : Option Source :=
  (lastNamed? fieldName (UrlEncoded.fields (Bytes.toLatin1 r.query))).map .text

/-- The media type of URL-encoded forms. -/
def urlEncodedType : String := "application/x-www-form-urlencoded"

/-- The media type of multipart forms. -/
def multipartType : String := "multipart/form-data"

/-- Whether a content type, in small letters, begins like that of a form. -/
def startsFormType (contentType : String) : Bool :=
  let s := (contentType.toList).map Text.lowerAsciiChar
  urlEncodedType.toList.isPrefixOf s || multipartType.toList.isPrefixOf s

/-- The field in a URL-encoded body. -/
def inUrlEncoded? (body : Bytes) : Except Error (Option Source) :=
  let fields := UrlEncoded.bodyFields body
  if fields.length > maxFields then .error (.form .tooManyFields)
  else .ok ((lastNamed? fieldName fields).map .text)

/-- The field in a multipart body. -/
def inMultipart? (contentType : HeaderValue) (body : Bytes) : Except Error (Option Source) :=
  match Multipart.read contentType body with
  | .error e => .error (.form e)
  | .ok parts =>
    .ok ((lastNamed? fieldName (parts.map fun part => (part.name, part.text))).map fun text =>
      match text with
      | some s => .text s
      | none => .file)

/-- The field in a form body.  The media type has to be that of a form as a whole, in any case; the
bodies of other types hold no fields. -/
def inForm? (contentType : String) (body : Bytes) : Except Error (Option Source) :=
  match HeaderValue.read contentType with
  | .error e => .error (.form e)
  | .ok header =>
    if header.head == multipartType then inMultipart? header body
    else if header.head == urlEncodedType then inUrlEncoded? body
    else .ok none

/-- The field that holds the bound of a request, if there is one. -/
def source? (r : Request) : Except Error (Option Source) :=
  match inQuery? r with
  | some source => .ok (some source)
  | none =>
    let contentType := (r.header? "content-type").getD ""
    if startsFormType contentType then inForm? contentType r.body else .ok none

/-- The bound of a request. -/
def read (r : Request) : Except Error (Option Int) :=
  match source? r with
  | .error e => .error e
  | .ok none => .ok none
  | .ok (some source) => source.toInt.map some

end CardHealth.Since
