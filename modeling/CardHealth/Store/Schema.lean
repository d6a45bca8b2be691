import CardHealth.Store.Cell
import CardHealth.Validation

/-!
# The two tables

A card is registered once, in `cards`; every health snapshot of a card is a row of
`consolidated_sector_maps`, and the active ones are current.  A `Schema` describes the columns of
one table, which are the values of an enumeration, so that a row is a function on them.
-/

namespace CardHealth.Store

/-- The declared type of a column. -/
inductive ColumnType where
  | bigInt
  | integer
  | varchar (greatest : Nat)
  | blob
  | float
  | boolean
  deriving DecidableEq, Repr

/-- The affinity that a declared type lends. -/
def ColumnType.affinity : ColumnType → Affinity
  | .bigInt | .integer | .boolean => .numeric
  | .varchar _ => .text
  | .blob => .none
  | .float => .real

/-- A column. -/
structure Column where
  name : String
  type : ColumnType
  /-- Whether the column may hold null. -/
  nullable : Bool
  /-- The value for a new row that gives none; without one the value has to be given. -/
  default : Option Value

/-- A table with the columns `κ`. -/
structure Schema (κ : Type) where
  /-- The name of the table. -/
  table : String
  /-- The name of one of its records. -/
  record : String
  columns : List κ
  column : κ → Column
  key : List κ
  /-- The columns that point to a column of another table, given by the names of both. -/
  references : List (κ × String × String)
  indexed : List κ

/-- A row of a table with the columns `κ`. -/
abbrev Row (κ : Type) := κ → Cell

/-! ### Cards -/

/-- The columns of the table of cards. -/
inductive CardColumn where
  | id
  | name
  | uuid
  | size
  | sectorSize
  deriving DecidableEq, Repr

/-- Describes a column of the table of cards. -/
def CardColumn.column : CardColumn → Column
  | .id => ⟨"id", .bigInt, false, none⟩
  | .name => ⟨"name", .varchar 255, false, none⟩
  | .uuid => ⟨"uuid", .varchar 36, true, some .null⟩
  | .size => ⟨"size", .bigInt, false, none⟩
  | .sectorSize => ⟨"sector_size", .integer, true, some .null⟩

/-- The table of cards. -/
def cardSchema : Schema CardColumn where
  table := "cards"
  record := "Card"
  columns := [.id, .name, .uuid, .size, .sectorSize]
  column := CardColumn.column
  key := [.id]
  references := []
  indexed := []

/-! ### Snapshots -/

/-- The columns of the table of health snapshots. -/
inductive SnapshotColumn where
  | id
  | lastUpdated
  | sectorMap
  | curRoundNum
  | roundNumOffset
  | numBadSectors
  | status
  | rate
  | isActive
  deriving DecidableEq, Repr

/-- Describes a column of the table of snapshots. -/
def SnapshotColumn.column : SnapshotColumn → Column
  | .id => ⟨"id", .bigInt, false, none⟩
  | .lastUpdated => ⟨"last_updated", .bigInt, false, none⟩
  | .sectorMap => ⟨"consolidated_sector_map", .blob, true, some .null⟩
  | .curRoundNum => ⟨"cur_round_num", .bigInt, false, some (.int 0)⟩
  | .roundNumOffset => ⟨"round_num_offset", .bigInt, false, some (.int 0)⟩
  | .numBadSectors => ⟨"num_bad_sectors", .bigInt, false, some (.int 0)⟩
  | .status => ⟨"status", .integer, false, some (.int 0)⟩
  | .rate => ⟨"rate", .float, false, some (.float .zero)⟩
  | .isActive => ⟨"is_active", .boolean, false, some (.bool false)⟩

/-- The table of health snapshots. -/
def snapshotSchema : Schema SnapshotColumn where
  table := "consolidated_sector_maps"
  record := "ConsolidatedSectorMap"
  columns := [.id, .lastUpdated, .sectorMap, .curRoundNum, .roundNumOffset, .numBadSectors,
    .status, .rate, .isActive]
  column := SnapshotColumn.column
  key := [.id, .lastUpdated]
  references := [(.id, "cards", "id")]
  indexed := [.isActive]

/-! ### Records in memory -/

/-- A text of limited length. -/
def checkedText (greatest : Nat) (value : Value) : Except Fault Value :=
  match value.toText with
  | .ok s => if s.length ≤ greatest then .ok (.text s) else .error (.longText greatest)
  | .error fault => .error fault

/-- Checks a value against a column's type. -/
def ColumnType.check : ColumnType → Value → Except Fault Value
  | .bigInt, value | .integer, value => value.toInt.map .int
  | .varchar greatest, value => checkedText greatest value
  | .blob, value => value.toBytes.map (.bytes .fixed)
  | .float, value => value.toFloat.map .float
  | .boolean, value => value.toBool.map .bool

/-- Checks the value for a column; null passes where the column may hold it. -/
def Column.check (column : Column) : Value → Except Fault Value
  | .null => if column.nullable then .ok .null else column.type.check .null
  | value => column.type.check value

/-- A record held in memory: the columns that have a value, with their names. -/
abbrev Draft := List (String × Value)

/-- The value that given fields hold for a column, or its default. -/
def Column.given? (column : Column) (fields : List (String × Value)) : Option Value :=
  match lastNamed? column.name fields with
  | some value => some value
  | none => column.default

/-- The record made of given fields without any check: defaults are added, fields of no column
dropped. -/
def Schema.draft {κ : Type} (schema : Schema κ) (fields : List (String × Value)) : Draft :=
  schema.columns.filterMap fun c =>
    ((schema.column c).given? fields).map ((schema.column c).name, ·)

/-- Checks the field for a column; a default is taken as it is. -/
def Column.checkField (column : Column) (fields : List (String × Value)) : Except Fault Value :=
  match lastNamed? column.name fields, column.default with
  | some value, _ => column.check value
  | none, some value => .ok value
  | none, none => .error .missing

/-- The record made of given fields, each of them checked. -/
def Schema.checkedDraft {κ : Type} (schema : Schema κ) (fields : List (String × Value)) :
    Except Refusal Draft :=
  let outcomes := schema.columns.map fun c =>
    ((schema.column c).name, (schema.column c).checkField fields)
  match collectFaults (outcomes.map fun outcome => (outcome.1, faultOf? outcome.2)) with
  | [] => .ok (outcomes.filterMap fun outcome => outcome.2.toOption.map (outcome.1, ·))
  | faults => .error ⟨schema.record, faults⟩

end CardHealth.Store
