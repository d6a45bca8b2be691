import CardHealth.Store.Schema

/-!
# Query and definition texts

The SQL of the one query that the service runs, and of the definitions of its tables, in the
dialects it is used with.
-/

namespace CardHealth.Store

/-- A flavour of SQL. -/
inductive Dialect where
  | generic
  | sqlite
  | mysql
  deriving DecidableEq, Repr

/-- The word that joins two tables. -/
def Dialect.join : Dialect → String
  | .mysql => "INNER JOIN"
  | _ => "JOIN"

/-- The literal for truth. -/
def Dialect.truth : Dialect → String
  | .mysql => "true"
  | _ => "1"

/-- The mark for the value of a named parameter. -/
def Dialect.placeholder (dialect : Dialect) (parameter : String) : String :=
  match dialect with
  | .generic => ":" ++ parameter
  | .sqlite => "?"
  | .mysql => "%s"

/-- A declared type. -/
def Dialect.typeName (dialect : Dialect) : ColumnType → String
  | .bigInt => "BIGINT"
  | .integer => "INTEGER"
  | .varchar greatest => s!"VARCHAR({greatest})"
  | .blob => "BLOB"
  | .float => "FLOAT"
  | .boolean =>
    match dialect with
    | .mysql => "BOOL"
    | _ => "BOOLEAN"

/-! ### The status query -/

/-- A column with its table. -/
def Schema.qualified {κ : Type} (schema : Schema κ) (c : κ) : String :=
  schema.table ++ "." ++ (schema.column c).name

/-- A query text with its parameters and the names of its result columns. -/
structure Query where
  sql : String
  parameters : List (String × Int)
  columns : List String
  deriving DecidableEq, Repr

/-- The result columns of the status query: their names and the expressions they stand for. -/
def statusColumns : List (String × String) :=
  let card c := cardSchema.qualified c
  let snapshot c := snapshotSchema.qualified c
  [("id", card .id),
   ("name", card .name),
   ("size", card .size),
   ("status", snapshot .status),
   ("rate", snapshot .rate),
   ("cur_round_num",
     snapshot .curRoundNum ++ " + " ++ snapshot .roundNumOffset ++ " AS cur_round_num"),
   ("num_bad_sectors", snapshot .numBadSectors),
   ("data", snapshot .sectorMap ++ " AS data"),
   ("last_updated", snapshot .lastUpdated)]

/-- The query for the cards with their active snapshots, ordered by name; with a bound, only those
last updated then or later. -/
def statusQuery (dialect : Dialect) (since : Option Int) : Query :=
  let bound :=
    match since with
    | some _ =>
      " AND " ++ snapshotSchema.qualified .lastUpdated ++ " >= " ++
        dialect.placeholder "last_updated_1"
    | none => ""
  { sql :=
      "SELECT " ++ String.intercalate ", " (statusColumns.map (·.2)) ++
      " \nFROM " ++ cardSchema.table ++ " " ++ dialect.join ++ " " ++ snapshotSchema.table ++
      " ON " ++ snapshotSchema.qualified .id ++ " = " ++ cardSchema.qualified .id ++
      " \nWHERE " ++ snapshotSchema.qualified .isActive ++ " = " ++ dialect.truth ++ bound ++
      " ORDER BY " ++ cardSchema.qualified .name
    parameters := since.toList.map ("last_updated_1", ·)
    columns := statusColumns.map (·.1) }

/-! ### Definitions -/

/-- The definition of a column. -/
def Schema.columnDefinition {κ : Type} (schema : Schema κ) (dialect : Dialect) (c : κ) : String :=
  let column := schema.column c
  column.name ++ " " ++ dialect.typeName column.type ++
    if column.nullable then "" else " NOT NULL"

/-- The names of columns, between commas. -/
def Schema.columnNames {κ : Type} (schema : Schema κ) (cs : List κ) : String :=
  String.intercalate ", " (cs.map fun c => (schema.column c).name)

/-- The statement that creates a table. -/
def Schema.createTable {κ : Type} (schema : Schema κ) (dialect : Dialect) : String :=
  let parts :=
    schema.columns.map (schema.columnDefinition dialect) ++
    ["PRIMARY KEY (" ++ schema.columnNames schema.key ++ ")"] ++
    schema.references.map fun (c, table, column) =>
      s!"FOREIGN KEY({schema.columnNames [c]}) REFERENCES {table} ({column})"
  s!"\nCREATE TABLE {schema.table} (\n\t" ++ String.intercalate ", \n\t" parts ++ "\n)\n\n"

/-- The statements that create the indexes of a table. -/
def Schema.createIndexes {κ : Type} (schema : Schema κ) : List String :=
  schema.indexed.map fun c =>
    let column := (schema.column c).name
    s!"CREATE INDEX ix_{schema.table}_{column} ON {schema.table} ({column})"

end CardHealth.Store
