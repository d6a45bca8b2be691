import CardHealth.Proofs.Outcome
import CardHealth.Proofs.Store.Affinity
import CardHealth.Store.Database
import Mathlib.Data.List.Pairwise

/-!
# Integrity of the tables

Tables that are created with their constraints stay *intact*: no required column of a row is null,
every cell is as its column keeps it, and no two rows have equal keys.  Each operation of `Table`
keeps that (`Table.Intact.insert`, `Table.Intact.update`, `Table.Intact.delete`), and so does each
operation of `Database`.
-/

namespace CardHealth.Store

/-! ### Tables -/

section Table

variable {κ : Type} {schema : Schema κ} {table next : Table κ}

/-- Every cell of a row is as its column keeps it. -/
def Schema.IsKept (schema : Schema κ) (row : Row κ) : Prop :=
  ∀ c, (schema.column c).type.affinity.apply (row c) = row c

/-- A table with enforced constraints, all of which its rows meet. -/
structure Table.Intact (schema : Schema κ) (table : Table κ) : Prop where
  enforced : table.enforced = true
  nullColumn? : ∀ row ∈ table.rows, schema.nullColumn? row = none
  isKept : ∀ row ∈ table.rows, schema.IsKept row
  pairwise_key : table.rows.Pairwise fun a b => schema.sameKey a b = false

/-- Parameters are stored as their columns keep them. -/
theorem apply_of_mem_storeAll {position : Nat} {parameters : List (κ × Value)}
    {cells : List (κ × Cell)} (h : schema.storeAll position parameters = .ok cells) :
    ∀ stored ∈ cells, (schema.column stored.1).type.affinity.apply stored.2 = stored.2 := by
  induction parameters generalizing position cells with
  | nil =>
    obtain rfl := Except.ok.inj h
    simp
  | cons parameter parameters ih =>
    simp only [Schema.storeAll, Schema.store, bind_eq_ok_iff, map_eq_ok_iff] at h
    obtain ⟨_, ⟨bound, -, rfl⟩, rest, hrest, h⟩ := h
    obtain rfl := Except.ok.inj h
    exact List.forall_mem_cons.mpr ⟨Affinity.apply_apply _ _, ih hrest⟩

/-- A row stays kept if some of its columns are replaced by what is kept. -/
theorem Schema.IsKept.assign [DecidableEq κ] {row : Row κ} (hrow : schema.IsKept row)
    {cells : List (κ × Cell)}
    (hcells : ∀ stored ∈ cells,
      (schema.column stored.1).type.affinity.apply stored.2 = stored.2) :
    schema.IsKept (row.assign cells) := by
  intro c
  unfold Row.assign
  cases hlookup : cells.lookup c with
  | none => exact hrow c
  | some cell =>
    obtain ⟨before, after, rfl, -⟩ := List.lookup_eq_some_iff.mp hlookup
    exact hcells (c, cell) (by simp)

/-- A row made of cells is the row of nulls with these cells put in. -/
theorem isKept_ofCells [DecidableEq κ] {cells : List (κ × Cell)}
    (hcells : ∀ stored ∈ cells,
      (schema.column stored.1).type.affinity.apply stored.2 = stored.2) :
    schema.IsKept (Row.ofCells cells) := by
  have hnull : schema.IsKept fun _ => .null := fun _ => apply_null _
  exact hnull.assign hcells

theorem violation?_eq_none_iff (others : List (Row κ)) (row : Row κ) :
    schema.violation? others row = none ↔
      schema.nullColumn? row = none ∧ ∀ other ∈ others, schema.sameKey other row = false := by
  unfold Schema.violation?
  cases schema.nullColumn? row <;> simp

/-- Rows without a violation among them meet all constraints. -/
theorem firstViolation?_eq_none {before rows : List (Row κ)}
    (h : schema.firstViolation? before rows = none) :
    (∀ row ∈ rows, schema.nullColumn? row = none) ∧
      (∀ other ∈ before, ∀ row ∈ rows, schema.sameKey other row = false) ∧
      rows.Pairwise fun a b => schema.sameKey a b = false := by
  -- The rows that were passed already are among those before the rest.
  induction rows generalizing before with
  | nil => simp
  | cons row rows ih =>
    rw [Schema.firstViolation?] at h
    split at h
    · cases h
    · rename_i hrow
      obtain ⟨hnull, hkey⟩ := (violation?_eq_none_iff _ _).mp hrow
      obtain ⟨hnulls, hbefore, hpairwise⟩ := ih h
      refine ⟨List.forall_mem_cons.mpr ⟨hnull, hnulls⟩, fun other hother => ?_,
        List.pairwise_cons.mpr ⟨hbefore row (by simp), hpairwise⟩⟩
      exact List.forall_mem_cons.mpr ⟨hkey other (by simp [hother]),
        hbefore other (by simp [hother])⟩

namespace Table.Intact

theorem empty : Table.Intact schema ⟨true, []⟩ :=
  ⟨rfl, by simp, by simp, List.Pairwise.nil⟩

theorem insert {row : Row κ} (h : table.Intact schema) (hkept : schema.IsKept row)
    (hnext : table.insert schema row = .ok next) : next.Intact schema := by
  rw [Table.insert, h.enforced, if_pos rfl] at hnext
  split at hnext
  · cases hnext
  · rename_i hrow
    obtain ⟨hnull, hkey⟩ := (violation?_eq_none_iff _ _).mp hrow
    obtain rfl := Except.ok.inj hnext
    refine ⟨rfl, ?_, ?_, ?_⟩
    · simpa [or_imp, forall_and] using ⟨h.nullColumn?, hnull⟩
    · simpa [or_imp, forall_and] using ⟨h.isKept, hkept⟩
    · rw [List.pairwise_append]
      exact ⟨h.pairwise_key, List.pairwise_singleton _ _, by simpa using hkey⟩

variable [DecidableEq κ]

theorem insertParameters {parameters : List (κ × Value)} (h : table.Intact schema)
    (hnext : table.insertParameters schema parameters = .ok next) : next.Intact schema := by
  rw [Table.insertParameters, bind_eq_ok_iff] at hnext
  obtain ⟨cells, hcells, hnext⟩ := hnext
  exact h.insert (isKept_ofCells (apply_of_mem_storeAll hcells)) hnext

theorem insertPlain {rows : List (List (String × Value))} (h : table.Intact schema)
    (hnext : table.insertPlain schema rows = .ok next) : next.Intact schema := by
  refine foldlM_preserves (fun table fields next h hnext => ?_) h hnext
  rw [bind_eq_ok_iff] at hnext
  obtain ⟨parameters, -, hnext⟩ := hnext
  exact h.insertParameters hnext

theorem update {condition assignment : List (String × Value)} {count : Nat}
    (h : table.Intact schema)
    (hnext : table.update schema condition assignment = .ok (next, count)) :
    next.Intact schema := by
  simp only [Table.update, bind_eq_ok_iff] at hnext
  obtain ⟨assignment, -, condition, -, assigned, hassigned, wanted, -, hnext⟩ := hnext
  rw [h.enforced, if_pos rfl] at hnext
  split at hnext
  · cases hnext
  · rename_i hrows
    obtain ⟨hnull, -, hkey⟩ := firstViolation?_eq_none hrows
    obtain rfl := (Prod.mk.inj (Except.ok.inj hnext)).1
    refine ⟨rfl, hnull, fun row hrow => ?_, hkey⟩
    obtain ⟨old, hold, rfl⟩ := List.mem_map.mp hrow
    split
    · exact (h.isKept old hold).assign (apply_of_mem_storeAll hassigned)
    · exact h.isKept old hold

omit [DecidableEq κ] in
theorem delete {condition : List (String × Value)} {count : Nat} (h : table.Intact schema)
    (hnext : table.delete schema condition = .ok (next, count)) : next.Intact schema := by
  simp only [Table.delete, bind_eq_ok_iff] at hnext
  obtain ⟨condition, -, wanted, -, hnext⟩ := hnext
  obtain rfl := (Prod.mk.inj (Except.ok.inj hnext)).1
  exact ⟨h.enforced, fun row hrow => h.nullColumn? row (List.mem_filter.mp hrow).1,
    fun row hrow => h.isKept row (List.mem_filter.mp hrow).1, h.pairwise_key.filter _⟩

end Table.Intact

end Table

/-! ### Databases -/

section Database

variable {db next : Database}

/-- The tables of a database are intact, as far as they are there. -/
structure Database.Intact (db : Database) : Prop where
  cards : ∀ table ∈ db.cards, table.Intact cardSchema
  snapshots : ∀ table ∈ db.snapshots, table.Intact snapshotSchema

theorem need_eq_ok_iff {κ : Type} {schema : Schema κ} {table : Option (Table κ)}
    {found : Table κ} : Database.need schema table = .ok found ↔ table = some found := by
  cases table <;> simp [Database.need]

/-- Insertion into one of the tables keeps it intact. -/
theorem intact_of_insertInto {κ : Type} [DecidableEq κ] {schema : Schema κ} {mode : InsertMode}
    {table next : Option (Table κ)} {rows : List (List (String × Value))}
    (h : ∀ found ∈ table, found.Intact schema)
    (hnext : Database.insertInto schema mode table rows = .ok next) :
    ∀ found ∈ next, found.Intact schema := by
  unfold Database.insertInto at hnext
  split at hnext
  · obtain rfl := Except.ok.inj hnext
    exact h
  · cases mode with
    | records =>
      simp only [bind_eq_ok_iff, need_eq_ok_iff] at hnext
      obtain ⟨parameters, -, found, hfound, last, hlast, hnext⟩ := hnext
      obtain rfl := Except.ok.inj hnext
      rintro _ ⟨⟩
      exact foldlM_preserves (fun _ _ _ h hnext => h.insertParameters hnext) (h found hfound) hlast
    | plain =>
      simp only [bind_eq_ok_iff, need_eq_ok_iff] at hnext
      obtain ⟨found, hfound, last, hlast, hnext⟩ := hnext
      obtain rfl := Except.ok.inj hnext
      rintro _ ⟨⟩
      exact (h found hfound).insertPlain hlast

namespace Database.Intact

theorem empty : Database.Intact .empty :=
  ⟨by rintro _ ⟨⟩, by rintro _ ⟨⟩⟩

theorem setCards (h : db.Intact) {table : Table CardColumn} (htable : table.Intact cardSchema) :
    Database.Intact { db with cards := some table } := by
  refine ⟨?_, h.snapshots⟩
  rintro _ ⟨⟩
  exact htable

theorem setSnapshots (h : db.Intact) {table : Table SnapshotColumn}
    (htable : table.Intact snapshotSchema) :
    Database.Intact { db with snapshots := some table } := by
  refine ⟨h.cards, ?_⟩
  rintro _ ⟨⟩
  exact htable

theorem createTables (h : db.Intact) : (db.createTables true).Intact := by
  constructor
  · rintro _ ⟨⟩
    cases hcards : db.cards with
    | none => exact Table.Intact.empty
    | some table => exact h.cards table hcards
  · rintro _ ⟨⟩
    cases hsnapshots : db.snapshots with
    | none => exact Table.Intact.empty
    | some table => exact h.snapshots table hsnapshots

theorem drop (h : db.Intact) (table : TableName) : (db.drop table).Intact := by
  cases table with
  | cards => exact ⟨by rintro _ ⟨⟩, h.snapshots⟩
  | snapshots => exact ⟨h.cards, by rintro _ ⟨⟩⟩

theorem load {mode : InsertMode} {cards snapshots : List (List (String × Value))} (h : db.Intact)
    (hnext : db.load mode cards snapshots = .ok next) : next.Intact := by
  simp only [Database.load, bind_eq_ok_iff] at hnext
  obtain ⟨cards, hcards, snapshots, hsnapshots, hnext⟩ := hnext
  obtain rfl := Except.ok.inj hnext
  exact ⟨intact_of_insertInto h.cards hcards, intact_of_insertInto h.snapshots hsnapshots⟩

theorem update {table : TableName} {condition assignment : List (String × Value)} {count : Nat}
    (h : db.Intact) (hnext : db.update table condition assignment = .ok (next, count)) :
    next.Intact := by
  cases table with
  | cards =>
    simp only [Database.update, bind_eq_ok_iff, need_eq_ok_iff] at hnext
    obtain ⟨found, hfound, last, hlast, hnext⟩ := hnext
    obtain rfl := (Prod.mk.inj (Except.ok.inj hnext)).1
    exact h.setCards ((h.cards found hfound).update hlast)
  | snapshots =>
    simp only [Database.update, bind_eq_ok_iff, need_eq_ok_iff] at hnext
    obtain ⟨found, hfound, last, hlast, hnext⟩ := hnext
    obtain rfl := (Prod.mk.inj (Except.ok.inj hnext)).1
    exact h.setSnapshots ((h.snapshots found hfound).update hlast)

theorem delete {table : TableName} {condition : List (String × Value)} {count : Nat}
    (h : db.Intact) (hnext : db.delete table condition = .ok (next, count)) : next.Intact := by
  cases table with
  | cards =>
    simp only [Database.delete, bind_eq_ok_iff, need_eq_ok_iff] at hnext
    obtain ⟨found, hfound, last, hlast, hnext⟩ := hnext
    obtain rfl := (Prod.mk.inj (Except.ok.inj hnext)).1
    exact h.setCards ((h.cards found hfound).delete hlast)
  | snapshots =>
    simp only [Database.delete, bind_eq_ok_iff, need_eq_ok_iff] at hnext
    obtain ⟨found, hfound, last, hlast, hnext⟩ := hnext
    obtain rfl := (Prod.mk.inj (Except.ok.inj hnext)).1
    exact h.setSnapshots ((h.snapshots found hfound).delete hlast)

end Database.Intact

end Database

end CardHealth.Store
