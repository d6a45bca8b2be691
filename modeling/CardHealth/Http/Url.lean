import CardHealth.Http.Request
import CardHealth.Numeral
import CardHealth.Text.Percent
import CardHealth.Text.Quoted

/-!
# Addresses of services

An address, `scheme://user@host:port/path?query#fragment`, in which every component may be missing.
`Url.parse` reads any text as one and brings it into a normal form; a few texts are refused.  A
client is given a base address and adds the rest of a path to it with `Url.join`.
-/

namespace CardHealth.Http

/-- The address of a service. -/
structure Url where
  scheme : String
  authority : String
  path : String
  query : Option String
  fragment : Option String
  deriving DecidableEq, Repr

namespace Url

/-- Why a text is not an address. -/
inductive Error where
  | tooLong
  | unprintable (c : Char) (position : Nat)
  | unreadablePort (port : String)
  | relativePathAfterHost
  | doubleSlash
  | leadingColon
  deriving DecidableEq, Repr

/-- The message about a text that is no address. -/
def Error.message : Error → String
  | .tooLong => "URL too long"
  | .unprintable c position =>
    s!"Invalid non-printable ASCII character in URL, {Text.quoted (String.singleton c)} " ++
      s!"at position {position}."
  | .unreadablePort port => s!"Invalid port: {Text.quoted port}"
  | .relativePathAfterHost => "For absolute URLs, path must be empty or begin with '/'"
  | .doubleSlash => "Relative URLs cannot have a path starting with '//'"
  | .leadingColon => "Relative URLs cannot have a path starting with ':'"

/-! ### Components -/

/-- Whether a character of ASCII is printable and neither a blank nor one of `marks`. -/
def isPlain (marks : String) (c : Char) : Bool :=
  0x20 < c.toNat && c.toNat < 0x7F && !marks.toList.contains c

/-- What may stand unescaped in a path. -/
def isPathChar : Char → Bool := isPlain "\"#<>?`\x7b\x7d"

/-- What may stand unescaped in a query. -/
def isQueryChar : Char → Bool := isPlain "\"#<>"

/-- What may stand unescaped in a fragment. -/
def isFragmentChar : Char → Bool := isPlain "\"<>`"

/-- What may stand unescaped in the user's part of an authority. -/
def isUserChar : Char → Bool := isPlain "\"#<>?`\x7b\x7d/;=@[\\]^|"

/-- The port that a scheme has if none is given. -/
def defaultPort? (scheme : String) : Option Int :=
  List.lookup scheme [("ftp", 21), ("http", 80), ("https", 443), ("ws", 80), ("wss", 443)]

/-- Takes the host, maybe between brackets, off an authority. -/
def takeHost (s : List Char) : List Char × List Char :=
  let afterBracket := (s.reverse.takeWhile (· != ']')).reverse
  if s.head? == some '[' && s.contains ']' then
    (s.take (s.length - afterBracket.length), afterBracket)
  else
    let isHostChar (c : Char) : Bool := c != ':' && c != '@'
    (s.takeWhile isHostChar, s.dropWhile isHostChar)

/-- The user's part of an authority with the sign after it, and the rest. -/
def takeUser (s : List Char) : String × List Char :=
  match s.dropWhile (· != '@') with
  | _ :: rest =>
    let user := Text.percentEncode isUserChar (String.ofList (s.takeWhile (· != '@')))
    (if user.isEmpty then "" else user ++ "@", rest)
  | [] => ("", s)

/-- The port of an address, without the one that its scheme has anyway. -/
def readPort (scheme : String) (s : List Char) : Except Error String :=
  match s with
  | [] => .ok ""
  | _ =>
    match Numeral.read s with
    | .error _ => .error (.unreadablePort (String.ofList s))
    | .ok n => .ok (if defaultPort? scheme == some n then "" else ":" ++ Numeral.render n)

/-- The normal form of an authority. -/
def normalAuthority (scheme : String) (s : List Char) : Except Error String :=
  let (user, rest) := takeUser s
  let (host, rest) := takeHost rest
  let port := if rest.head? == some ':' then rest.drop 1 else rest
  (readPort scheme port).map fun port => user ++ String.ofList (host.map Char.toLower) ++ port

/-- Removes a component from the end of a path; the root stays. -/
def dropComponent : List (List Char) → List (List Char)
  | [] => []
  | [[]] => [[]]
  | _ :: rest => rest

/-- A path without the components `.` and `..`. -/
def removeDots (path : List Char) : List Char :=
  let kept := (path.splitOnP (· == '/')).foldl (fun read component =>
    if component == ['.'] then read
    else if component == ['.', '.'] then dropComponent read
    else component :: read) []
  ['/'].intercalate kept.reverse

/-- The path of an address in its normal form. -/
def normalPath (isRelative hasAuthority : Bool) (path : List Char) : Except Error String :=
  let encode (path : List Char) : String := Text.percentEncode isPathChar (String.ofList path)
  if hasAuthority && !path.isEmpty && path.head? != some '/' then .error .relativePathAfterHost
  else if isRelative then
    match path with
    | '/' :: '/' :: _ => .error .doubleSlash
    | ':' :: _ => .error .leadingColon
    | _ => .ok (encode path)
  else .ok (encode (removeDots path))

/-- The address with given components. -/
def ofComponents (scheme authority path : List Char) (query fragment : Option (List Char)) :
    Except Error Url := do
  let scheme := String.ofList (scheme.map Char.toLower)
  let authority ← normalAuthority scheme authority
  let path ← normalPath (scheme.isEmpty && authority.isEmpty) (!authority.isEmpty) path
  return {
    scheme, authority, path
    query := query.map fun s => Text.percentEncode isQueryChar (String.ofList s)
    fragment := fragment.map fun s => Text.percentEncode isFragmentChar (String.ofList s) }

/-! ### Reading and writing -/

/-- The greatest length of an address. -/
def maxLength : Nat := 65536

/-- Takes a scheme off a text. -/
def takeScheme (s : List Char) : List Char × List Char :=
  let isSchemeChar (c : Char) : Bool := c.isAlphanum || c == '+' || c == '.' || c == '-'
  match s.dropWhile isSchemeChar with
  | ':' :: rest =>
    if s.head?.any fun c => c.isAlpha || c == ':' then (s.takeWhile isSchemeChar, rest) else ([], s)
  | _ => ([], s)

/-- Takes an authority after two slashes off a text. -/
def takeAuthority (s : List Char) : List Char × List Char :=
  let isAuthorityChar (c : Char) : Bool := c != '/' && c != '?' && c != '#'
  match s with
  | '/' :: '/' :: rest => (rest.takeWhile isAuthorityChar, rest.dropWhile isAuthorityChar)
  | _ => ([], s)

/-- A text before the first occurrence of a mark, and the text after it. -/
def splitAtMark (mark : Char) (s : List Char) : List Char × Option (List Char) :=
  (s.takeWhile (· != mark), (s.dropWhile (· != mark)).tail?)

/-- Reads an address. -/
def parse (text : String) : Except Error Url :=
  let s := text.toList
  let isUnprintable (c : Char) : Bool := c.toNat < 0x20 || c.toNat == 0x7F
  if maxLength < s.length then .error .tooLong
  else
    match s.find? isUnprintable with
    | some c => .error (.unprintable c (s.takeWhile fun d => !isUnprintable d).length)
    | none =>
      let (scheme, s) := takeScheme s
      let (authority, s) := takeAuthority s
      let (s, fragment) := splitAtMark '#' s
      let (path, query) := splitAtMark '?' s
      ofComponents scheme authority path query fragment

/-- The text of an address. -/
def render (u : Url) : String :=
  (if u.scheme.isEmpty then "" else u.scheme ++ ":") ++
    (if u.authority.isEmpty then "" else "//" ++ u.authority) ++
    u.path ++
    (u.query.map ("?" ++ ·)).getD "" ++
    (u.fragment.map ("#" ++ ·)).getD ""

/-- What an address asks its server for: the path and the query. -/
def target (u : Url) : String :=
  (if u.path.isEmpty then "/" else u.path) ++ (u.query.map ("?" ++ ·)).getD ""

/-- An address that asks its server for something else. -/
def withTarget (u : Url) (target : String) : Except Error Url :=
  let (path, query) := splitAtMark '?' target.toList
  ofComponents u.scheme.toList u.authority.toList path query (u.fragment.map String.toList)

/-- Reads a base address; what it asks for ends with a slash. -/
def parseBase (text : String) : Except Error Url := do
  let u ← parse text
  if u.target.toList.getLast? == some '/' then return u else u.withTarget (u.target ++ "/")

/-- The address of a path below a base address. -/
def join (base : Url) (path : String) : Except Error Url :=
  base.withTarget (base.target ++ String.ofList (path.toList.dropWhile (· == '/')))

/-- Whether an address begins with a kind of address and a colon. -/
def hasKind (u : Url) : Bool :=
  let isKindChar (c : Char) : Bool := c != '/' && c != ':'
  match u.render.toList.takeWhile isKindChar, u.render.toList.dropWhile isKindChar with
  | _ :: _, ':' :: _ => true
  | _, _ => false

/-- The request for an address. -/
def request (u : Url) : Request :=
  { Request.ofPath (if u.path.isEmpty then "/" else u.path) with
    query := Text.encodeUtf8 (u.query.getD "") }

end Url

end CardHealth.Http
