import CardHealth.Base64
import CardHealth.Http.Url
import CardHealth.Json.Reader
import CardHealth.Monitor.Service

/-!
# The smoke client

A client that tries a running service out.  It asks for the health of the service, for the records
of all cards and for the records that were updated in the last five minutes, and prints what it
finds.  `SmokeClient.run` runs it against a `Monitor`.
-/

namespace CardHealth.SmokeClient

open Http

/-! ### The clock -/

/-- What a clock shows: seconds since the beginning of 1970, whole or with a fraction. -/
inductive Clock where
  | whole (seconds : Int)
  | fractional (seconds : Binary64)
  deriving DecidableEq, Repr

/-- Why a clock cannot be read. -/
inductive ClockError where
  | notANumber
  | infinite
  deriving DecidableEq, Repr

/-- The message about a clock that cannot be read. -/
def ClockError.message : ClockError → String
  | .notANumber => "cannot convert float NaN to integer"
  | .infinite => "cannot convert float infinity to integer"

/-- The whole seconds that a clock shows, without the fraction. -/
def Clock.seconds : Clock → Except ClockError Int
  | .whole n => .ok n
  | .fractional (.finite negative units) =>
    .ok (Binary64.signedUnits negative (units / Binary64.one))
  | .fractional .nan => .error .notANumber
  | .fractional (.infinity _) => .error .infinite

/-! ### Errors -/

/-- What can stop the client. -/
inductive Error where
  | address (error : Url.Error)
  /-- An address does not say what kind of address it is. -/
  | unknownKind (url : String)
  /-- The service passed a failure on. -/
  | service (failure : Failure)
  /-- A body is no JSON text. -/
  | notJson
  | badStatus (status : Nat) (url : String)
  /-- A text stands where a record should be. -/
  | textForRecord
  | data (error : Base64.Error)
  | clock (error : ClockError)

/-- What a status means, by its first digit. -/
def statusKind (status : Nat) : String :=
  match status / 100 with
  | 1 => "Informational response"
  | 3 => "Redirect response"
  | 4 => "Client error"
  | 5 => "Server error"
  | _ => "Invalid status code"

/-- The phrase for a status. -/
def statusPhrase (status : Nat) : String :=
  (List.lookup status
    [(200, "OK"), (307, "Temporary Redirect"), (400, "Bad Request"), (404, "Not Found"),
     (405, "Method Not Allowed"), (422, "Unprocessable Entity"),
     (500, "Internal Server Error")]).getD ""

/-- The message about what stopped the client. -/
def Error.message : Error → String
  | .address e => e.message
  | .unknownKind url => s!"unknown url type: {Text.quoted url}"
  | .service f => f.message
  | .notJson => "Expecting value: line 1 column 1 (char 0)"
  | .badStatus status url =>
    s!"{statusKind status} '{status} {statusPhrase status}' for url '{url}'\n" ++
      "For more information check: " ++
      s!"https://developer.mozilla.org/en-US/docs/Web/HTTP/Status/{status}"
  | .textForRecord => "string indices must be integers, not 'str'"
  | .data e => e.message
  | .clock e => e.message

/-! ### Requests -/

/-- The variable that holds the base address of the service. -/
def addressVariable : String := "CARDMONITOR_API_URL"

/-- The base address if the variable is not set. -/
def defaultAddress : String := "http://127.0.0.1:8787/api"

/-- Requests an address.  A failure that the service raises stops the client only if `raises`. -/
def fetch (m : Monitor) (raises : Bool) (url : Url) : Except Error Response × Monitor :=
  let (reply, m) := m.respond url.request
  match reply.raised, raises with
  | some f, true => (.error (.service f), m)
  | _, _ => (if url.hasKind then .ok reply.response else .error (.unknownKind url.render), m)

/-- The JSON value in the body of a response. -/
def content (response : Response) : Except Error Json :=
  match Json.read? response.body with
  | some x => .ok x
  | none => .error .notJson

/-- Requests a path below the base address, and gives the status and the JSON value in the body. -/
def fetchContent (m : Monitor) (raises : Bool) (base : Url) (path : String) :
    Except Error (Nat × Json) × Monitor :=
  match base.join path with
  | .error e => (.error (.address e), m)
  | .ok url =>
    match fetch m raises url with
    | (.error e, m) => (.error e, m)
    | (.ok response, m) => ((content response).map (response.status, ·), m)

/-! ### Output -/

/-- The items of a JSON value; those of an object are its keys. -/
def itemsOf : Json → List Json
  | .array items => items
  | .object members => members.map fun member => .string member.1
  | _ => []

/-- A value as it is printed, a text without quotes. -/
def shown : Json → String
  | .string s => s
  | x => x.display

/-- A text filled up with blanks on its left to a width. -/
def padLeft (width : Nat) (s : String) : String :=
  String.ofList (List.replicate (width - s.length) ' ') ++ s

/-- A text filled up with blanks on its right to a width. -/
def padRight (width : Nat) (s : String) : String :=
  s ++ String.ofList (List.replicate (width - s.length) ' ')

/-- The line about a card. -/
def cardLine (card : Json) : Except Error String :=
  match card with
  | .object _ =>
    let field (key : String) : String := ((card.member? key).map shown).getD ""
    match Base64.decodeLenient (field "data") with
    | .error e => .error (.data e)
    | .ok sectorMap =>
      let id := padLeft 4 (field "id")
      let name := padRight 20 (field "name")
      let round := field "cur_round_num"
      let bad := field "num_bad_sectors"
      .ok s!"  {id} {name} round={round} bad={bad} map={sectorMap.length}B\n"
  | _ => .error .textForRecord

/-- The lines about cards, up to the first one that has none. -/
def cardLines : List Json → String × Option Error
  | [] => ("", none)
  | card :: cards =>
    match cardLine card with
    | .error e => ("", some e)
    | .ok line =>
      let (lines, e) := cardLines cards
      (line ++ lines, e)

/-! ### Runs -/

/-- A run of the client: what it printed, and its exit status unless something stopped it. -/
structure Run where
  printed : String
  ending : Except Error Nat

/-- How many seconds an update may be old to be recent. -/
def recentSeconds : Int := 300

/-- Counts the records that were updated in the last five minutes. -/
def countRecent (m : Monitor) (raises : Bool) (base : Url) (clock : Clock) :
    Except Error Nat × Monitor :=
  match clock.seconds, base.join "/data" with
  | .error e, _ => (.error (.clock e), m)
  | _, .error e => (.error (.address e), m)
  | .ok now, .ok url =>
    let url := { url with query := some s!"since={Numeral.render (now - recentSeconds)}" }
    match fetch m raises url with
    | (.error e, m) => (.error e, m)
    | (.ok response, m) =>
      if response.status / 100 = 2 then
        ((content response).map fun x => (itemsOf x).length, m)
      else (.error (.badStatus response.status url.render), m)

/-- Prints the cards, and counts the recent ones. -/
def runCards (m : Monitor) (raises : Bool) (base : Url) (clock : Clock) (printed : String)
    (cards : Json) : Run × Monitor :=
  let (lines, e) := cardLines (itemsOf cards)
  let printed := printed ++ s!"Cards {(itemsOf cards).length}\n" ++ lines
  match e with
  | some e => (⟨printed, .error e⟩, m)
  | none =>
    match countRecent m raises base clock with
    | (.error e, m) => (⟨printed, .error e⟩, m)
    | (.ok count, m) => (⟨printed ++ s!"Updated in the last 5 minutes: {count}\n", .ok 0⟩, m)

/-- Runs the client with a base address. -/
def runAt (m : Monitor) (raises : Bool) (base : Url) (clock : Clock) : Run × Monitor :=
  match fetchContent m raises base "/health" with
  | (.error e, m) => (⟨"", .error e⟩, m)
  | (.ok (status, health), m) =>
    let printed := s!"Health {status} {health.display}\n"
    match fetchContent m raises base "/data" with
    | (.error e, m) => (⟨printed, .error e⟩, m)
    | (.ok (status, answer), m) =>
      if status = 200 then runCards m raises base clock printed answer
      else (⟨printed ++ s!"Data request failed {status} {answer.display}\n", .ok 1⟩, m)

/-- Runs the client against a service. -/
def run (m : Monitor) (raises : Bool) (clock : Clock) : Run × Monitor :=
  match Url.parseBase ((m.host.valueOf? addressVariable).getD defaultAddress) with
  | .error e => (⟨"", .error (.address e)⟩, m)
  | .ok base => runAt m raises base clock

end CardHealth.SmokeClient
