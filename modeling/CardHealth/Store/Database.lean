import CardHealth.Store.Table

/-!
# The database

Two tables, each of which may be missing.  The operations on it are the changes that the collector
makes; the service itself only queries.
-/

namespace CardHealth.Store

/-- The tables of the service. -/
structure Database where
  cards : Option (Table CardColumn)
  snapshots : Option (Table SnapshotColumn)

/-- The name of one of the two tables. -/
inductive TableName where
  | cards
  | snapshots
  deriving DecidableEq, Repr

/-- Whether rows are inserted as records of the schema or as plain rows of given columns. -/
inductive InsertMode where
  | records
  | plain
  deriving DecidableEq, Repr

namespace Database

/-- A database without tables. -/
def empty : Database :=
  ⟨none, none⟩

/-- Adds the tables that are missing, with their constraints enforced or not. -/
def createTables (db : Database) (enforced : Bool) : Database :=
  ⟨some (db.cards.getD ⟨enforced, []⟩), some (db.snapshots.getD ⟨enforced, []⟩)⟩

/-- Removes a table; one that is missing stays missing. -/
def drop (db : Database) : TableName → Database
  | .cards => { db with cards := none }
  | .snapshots => { db with snapshots := none }

/-- A table that has to be there. -/
def need {κ : Type} (schema : Schema κ) (table : Option (Table κ)) : Except Error (Table κ) :=
  match table with
  | some table => .ok table
  | none => .error (.noSuchTable schema.table)

/-- Inserts into one table. -/
def insertInto {κ : Type} [DecidableEq κ] (schema : Schema κ) (mode : InsertMode)
    (table : Option (Table κ)) (rows : List (List (String × Value))) :
    Except Error (Option (Table κ)) :=
  if rows.isEmpty then .ok table
  else
    match mode with
    | .records => do
      let parameters ← (rows.map schema.draft).mapM schema.prepare
      let table ← need schema table
      let table ← parameters.foldlM (Table.insertParameters schema) table
      return some table
    | .plain => do
      let table ← need schema table
      let table ← table.insertPlain schema rows
      return some table

/-- Inserts cards, then snapshots, all of them or none. -/
def load (db : Database) (mode : InsertMode) (cards snapshots : List (List (String × Value))) :
    Except Error Database := do
  let cards ← insertInto cardSchema mode db.cards cards
  let snapshots ← insertInto snapshotSchema mode db.snapshots snapshots
  return ⟨cards, snapshots⟩

/-- Replaces columns in the rows of a table that meet a condition, and counts these rows. -/
def update (db : Database) (table : TableName) (condition assignment : List (String × Value)) :
    Except Error (Database × Nat) :=
  match table with
  | .cards => do
    let cards ← need cardSchema db.cards
    let (cards, count) ← cards.update cardSchema condition assignment
    return ({ db with cards := some cards }, count)
  | .snapshots => do
    let snapshots ← need snapshotSchema db.snapshots
    let (snapshots, count) ← snapshots.update snapshotSchema condition assignment
    return ({ db with snapshots := some snapshots }, count)

/-- Removes the rows of a table that meet a condition, and counts them. -/
def delete (db : Database) (table : TableName) (condition : List (String × Value)) :
    Except Error (Database × Nat) :=
  match table with
  | .cards => do
    let cards ← need cardSchema db.cards
    let (cards, count) ← cards.delete cardSchema condition
    return ({ db with cards := some cards }, count)
  | .snapshots => do
    let snapshots ← need snapshotSchema db.snapshots
    let (snapshots, count) ← snapshots.delete snapshotSchema condition
    return ({ db with snapshots := some snapshots }, count)

end Database

end CardHealth.Store
