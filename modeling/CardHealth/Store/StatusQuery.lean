import CardHealth.CardStatus
import CardHealth.Store.Database

/-!
# The status query

Every card is paired with each of its active snapshots, the pairs are ordered by the name of the
card, and each of them is checked as a `CardStatus`.  Pairs whose cards have equal names have no
order of their own; `settle` puts such records into the order of their JSON texts.
-/

namespace CardHealth.Store

/-- A card with one of its snapshots. -/
structure StatusRow where
  card : Row CardColumn
  snapshot : Row SnapshotColumn

namespace StatusRow

/-- Whether the snapshot is one of the card's, is active, and was last updated at or after the
bound. -/
def selected (row : StatusRow) (since : Option Int) : Bool :=
  (row.snapshot .id).equals (row.card .id) &&
    (row.snapshot .isActive).equals (.int 1) &&
    since.all fun n => (row.snapshot .lastUpdated).atLeast (.int n)

/-- The result columns of the query. -/
def fields (row : StatusRow) : List (String × Value) :=
  [("id", (row.card .id).toValue),
   ("name", (row.card .name).toValue),
   ("size", (row.card .size).toValue),
   ("status", (row.snapshot .status).toValue),
   ("rate", (row.snapshot .rate).toValue),
   ("cur_round_num",
     ((row.snapshot .curRoundNum).add (row.snapshot .roundNumOffset)).toValue),
   ("num_bad_sectors", (row.snapshot .numBadSectors).toValue),
   ("data", (row.snapshot .sectorMap).toValue),
   ("last_updated", (row.snapshot .lastUpdated).toValue)]

/-- Checks a row as a record. -/
def check (row : StatusRow) : Except Refusal CardStatus :=
  CardStatus.check (.object row.fields)

/-- Whether a row may stand before another by the names of their cards. -/
def nameLe (a b : StatusRow) : Bool :=
  ((a.card .name).order (b.card .name)).isLE

end StatusRow

/-- The pairs of cards and snapshots that the query selects, in no particular order. -/
def selectedRows (cards : List (Row CardColumn)) (snapshots : List (Row SnapshotColumn))
    (since : Option Int) : List StatusRow :=
  snapshots.flatMap fun snapshot =>
    (cards.map fun card => ⟨card, snapshot⟩).filter (StatusRow.selected · since)

/-- Whether a bound can be passed to the store. -/
def boundFits (since : Option Int) : Bool :=
  since.all fitsWord

/-- The rows that the query returns. -/
def Database.statusRows (db : Database) (since : Option Int) : Except Error (List StatusRow) := do
  let cards ← Database.need cardSchema db.cards
  let snapshots ← Database.need snapshotSchema db.snapshots
  if boundFits since then
    return (selectedRows cards.rows snapshots.rows since).mergeSort StatusRow.nameLe
  else .error .oversizedInteger

/-- Checks rows in order, up to the first one that is refused. -/
def checkRows (rows : List StatusRow) : Except Refusal (List CardStatus) :=
  rows.mapM StatusRow.check

/-- Puts neighbouring records of equal names into the order of their JSON texts. -/
def settle (records : List CardStatus) : List CardStatus :=
  (records.splitBy fun a b => a.name == b.name).flatMap fun run =>
    run.mergeSort fun a b => decide (a.render ≤ b.render)

end CardHealth.Store
