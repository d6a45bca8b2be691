import CardHealth.Store.Parameter

/-!
# Tables

A table is a list of rows, in the order of insertion.  Where its constraints are enforced, a row is
let in only if no required column is null and no other row has an equal key.  Every operation
answers with the new table or with the first failure, and a failure changes nothing.
-/

namespace CardHealth.Store

/-- A table of rows with the columns `κ`. -/
structure Table (κ : Type) where
  /-- Whether required columns and keys are enforced. -/
  enforced : Bool
  rows : List (Row κ)

variable {κ : Type}

/-! ### Constraints -/

/-- The first required column in which a row is null. -/
def Schema.nullColumn? (schema : Schema κ) (row : Row κ) : Option κ :=
  schema.columns.find? fun c => !(schema.column c).nullable && row c == .null

/-- Whether two rows have equal keys. -/
def Schema.sameKey (schema : Schema κ) (a b : Row κ) : Bool :=
  schema.key.all fun c => (a c).equals (b c)

/-- The failure of a row beside other rows, if it breaks a constraint. -/
def Schema.violation? (schema : Schema κ) (others : List (Row κ)) (row : Row κ) : Option Error :=
  match schema.nullColumn? row with
  | some c => some (.nullColumn schema.table (schema.column c).name)
  | none =>
    if others.any fun other => schema.sameKey other row then
      some (.duplicateKey schema.table (schema.key.map fun c => (schema.column c).name))
    else none

/-! ### Rows from parameters -/

/-- The row with some columns given; the others are null. -/
def Row.ofCells [DecidableEq κ] (cells : List (κ × Cell)) : Row κ :=
  fun c => (cells.lookup c).getD .null

/-- The stored value of a parameter for a column. -/
def Schema.store (schema : Schema κ) (c : κ) (position : Nat) (value : Value) :
    Except Error Cell :=
  (bind position value).map (schema.column c).type.affinity.apply

/-- The stored values of parameters, which are counted from `position`. -/
def Schema.storeAll (schema : Schema κ) (position : Nat) :
    List (κ × Value) → Except Error (List (κ × Cell))
  | [] => .ok []
  | (c, value) :: rest => do
    let cell ← schema.store c position value
    let cells ← schema.storeAll (position + 1) rest
    return (c, cell) :: cells

/-- The column with a name. -/
def Schema.column? (schema : Schema κ) (name : String) : Option κ :=
  schema.columns.find? fun c => (schema.column c).name == name

/-- The columns with the given names; an unknown name is a failure. -/
def Schema.resolve (schema : Schema κ) (unknown : String → Error) :
    List (String × Value) → Except Error (List (κ × Value))
  | [] => .ok []
  | (name, value) :: rest =>
    match schema.column? name with
    | none => .error (unknown name)
    | some c => do
      let others ← schema.resolve unknown rest
      return (c, value) :: others

/-- The value of a new record's column, prepared for its type.  Null stands for the default where
there is one, and a missing value is left out. -/
def Schema.prepareColumn (schema : Schema κ) (draft : Draft) (c : κ) :
    Except Error (Option (κ × Value)) :=
  let column := schema.column c
  let value :=
    match lastNamed? column.name draft with
    | some .null | none => column.default
    | some value => some value
  match value with
  | none => .ok none
  | some value => (column.type.prepare value).map fun value => some (c, value)

/-- The parameters that insert a new record. -/
def Schema.prepare (schema : Schema κ) (draft : Draft) : Except Error (List (κ × Value)) := do
  let parameters ← schema.columns.mapM (schema.prepareColumn draft)
  return parameters.filterMap id

/-! ### Operations -/

/-- Adds a row. -/
def Table.insert (schema : Schema κ) (table : Table κ) (row : Row κ) : Except Error (Table κ) :=
  match if table.enforced then schema.violation? table.rows row else none with
  | some failure => .error failure
  | none => .ok { table with rows := table.rows ++ [row] }

/-- Adds a row made of parameters. -/
def Table.insertParameters [DecidableEq κ] (schema : Schema κ) (table : Table κ)
    (parameters : List (κ × Value)) : Except Error (Table κ) := do
  let cells ← schema.storeAll 1 parameters
  table.insert schema (Row.ofCells cells)

/-- Adds rows of given columns, as they are. -/
def Table.insertPlain [DecidableEq κ] (schema : Schema κ) (table : Table κ)
    (rows : List (List (String × Value))) : Except Error (Table κ) :=
  rows.foldlM (fun table fields => do
    let parameters ← schema.resolve (Error.unknownColumn schema.table) fields
    table.insertParameters schema parameters) table

/-- Whether a row has all the given values. -/
def Row.matches (row : Row κ) (condition : List (κ × Cell)) : Bool :=
  condition.all fun (c, cell) => (row c).equals cell

/-- The row with some columns replaced. -/
def Row.assign [DecidableEq κ] (row : Row κ) (cells : List (κ × Cell)) : Row κ :=
  fun c => (cells.lookup c).getD (row c)

/-- The failure of a list of rows, if one of them breaks a constraint beside the others. -/
def Schema.firstViolation? (schema : Schema κ) (before : List (Row κ)) :
    List (Row κ) → Option Error
  | [] => none
  | row :: rows =>
    match schema.violation? (before ++ rows) row with
    | some failure => some failure
    | none => schema.firstViolation? (before ++ [row]) rows

/-- Replaces columns in the rows that meet a condition, and counts these rows. -/
def Table.update [DecidableEq κ] (schema : Schema κ) (table : Table κ)
    (condition assignment : List (String × Value)) : Except Error (Table κ × Nat) := do
  let assignment ← schema.resolve Error.noSuchColumn assignment
  let condition ← schema.resolve Error.noSuchColumn condition
  let assigned ← schema.storeAll 1 assignment
  let wanted ← schema.storeAll (assignment.length + 1) condition
  let rows := table.rows.map fun row => if row.matches wanted then row.assign assigned else row
  match if table.enforced then schema.firstViolation? [] rows else none with
  | some failure => .error failure
  | none => .ok ({ table with rows }, table.rows.countP fun row => row.matches wanted)

/-- Removes the rows that meet a condition, and counts them. -/
def Table.delete (schema : Schema κ) (table : Table κ) (condition : List (String × Value)) :
    Except Error (Table κ × Nat) := do
  let condition ← schema.resolve Error.noSuchColumn condition
  let wanted ← schema.storeAll 1 condition
  let rows := table.rows.filter fun row => !row.matches wanted
  return ({ table with rows }, table.rows.length - rows.length)

end CardHealth.Store
