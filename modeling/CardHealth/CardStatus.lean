import CardHealth.Base64
import CardHealth.Validation

/-!
# Card status records

A `CardStatus` is what the service reports about a card and one of its health snapshots.
`CardStatus.check` makes one from an untyped value, field by field: the outcome of each field
depends on the value under its key alone, and a refusal lists one fault for each field that has one,
in the order in which `CardStatus.toJson` writes the fields.
-/

namespace CardHealth

/-- The reported state of a card. -/
structure CardStatus where
  id : Int
  name : String
  /-- The sector map in Base64. -/
  data : String
  lastUpdated : Int
  size : Int
  status : Int
  rate : Binary64
  numBadSectors : Int
  curRoundNum : Int
  deriving DecidableEq, Repr

namespace CardStatus

/-- The keys of a record, in the order in which they are written. -/
def keys : List String :=
  ["id", "name", "data", "last_updated", "size", "status", "rate", "num_bad_sectors",
   "cur_round_num"]

/-- The written form of a sector map: nothing for a map that is absent, Base64 for bytes.  Any other
value is kept. -/
def encodeSectorMap : Value → Value
  | .null => .text ""
  | .bytes _ data => .text (Base64.encode data)
  | value => value

/-- Checks a sector map. -/
def checkSectorMap (value : Value) : Except Fault String :=
  (encodeSectorMap value).toText

/-- Checks the fields of an object. -/
def checkFields (fields : List (String × Value)) : Except (List FieldFault) CardStatus :=
  let id := requiredField Value.toInt "id" fields
  let name := requiredField Value.toText "name" fields
  let data := requiredField checkSectorMap "data" fields
  let lastUpdated := requiredField Value.toInt "last_updated" fields
  let size := requiredField Value.toInt "size" fields
  let status := requiredField Value.toInt "status" fields
  let rate := requiredField Value.toFloat "rate" fields
  let numBadSectors := requiredField Value.toInt "num_bad_sectors" fields
  let curRoundNum := requiredField Value.toInt "cur_round_num" fields
  match id, name, data, lastUpdated, size, status, rate, numBadSectors, curRoundNum with
  | .ok id, .ok name, .ok data, .ok lastUpdated, .ok size, .ok status, .ok rate,
      .ok numBadSectors, .ok curRoundNum =>
    .ok { id, name, data, lastUpdated, size, status, rate, numBadSectors, curRoundNum }
  | _, _, _, _, _, _, _, _, _ =>
    .error <| collectFaults
      [("id", faultOf? id), ("name", faultOf? name), ("data", faultOf? data),
       ("last_updated", faultOf? lastUpdated), ("size", faultOf? size),
       ("status", faultOf? status), ("rate", faultOf? rate),
       ("num_bad_sectors", faultOf? numBadSectors), ("cur_round_num", faultOf? curRoundNum)]

/-- Makes a record from an untyped value. -/
def check : Value → Except Refusal CardStatus
  | .object fields =>
    match checkFields fields with
    | .ok record => .ok record
    | .error faults => .error ⟨"CardStatus", faults⟩
  | _ => .error ⟨"CardStatus", [⟨none, .notARecord "CardStatus"⟩]⟩

/-- The JSON object of a record. -/
def toJson (s : CardStatus) : Json :=
  .object
    [("id", .int s.id), ("name", .string s.name), ("data", .string s.data),
     ("last_updated", .int s.lastUpdated), ("size", .int s.size), ("status", .int s.status),
     ("rate", .float s.rate), ("num_bad_sectors", .int s.numBadSectors),
     ("cur_round_num", .int s.curRoundNum)]

/-- The JSON text of a record. -/
def render (s : CardStatus) : String :=
  s.toJson.render

/-- The JSON array of a list of records. -/
def listToJson (records : List CardStatus) : Json :=
  .array (records.map toJson)

end CardStatus

end CardHealth
