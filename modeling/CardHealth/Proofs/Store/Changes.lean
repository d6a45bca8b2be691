import CardHealth.Proofs.Store.Integrity

/-!
# Changes of the tables

An insertion adds one row for each of the given ones, and an update replaces columns in the rows
that meet its condition.  Where constraints are enforced, the rows afterwards decide: the change is
made if they meet the constraints, and refused otherwise (`Database.load_eq_ok_iff`,
`Database.update_eq_ok_iff`).
-/

namespace CardHealth

/-! ### Equal values -/

theorem Binary64.swap_compare (a b : Binary64) : (a.compare b).swap = b.compare a := by
  cases a with
  | infinity negative =>
    cases b with
    | infinity other => exact (Std.OrientedOrd.eq_swap (α := Bool)).symm
    | _ => cases negative <;> rfl
  | finite negative units =>
    cases b with
    | infinity other => cases other <;> rfl
    | finite other others => exact (Std.OrientedOrd.eq_swap (α := Int)).symm
    | nan => rfl
  | nan =>
    cases b with
    | infinity other => cases other <;> rfl
    | _ => rfl

namespace Store

theorem order_blob_eq_iff (a b : Bytes) : (Cell.blob a).order (.blob b) = .eq ↔ a = b := by
  simp only [Cell.order]
  split_ifs with hlt heq
  · simp only [false_iff]
    rintro rfl
    exact List.lt_irrefl _ hlt
  · simp [heq]
  · simp [heq]

theorem order_eq_comm {a b : Cell} (h : a.order b = .eq) : b.order a = .eq := by
  cases a with
  | null => cases b <;> simp_all [Cell.order]
  | int m =>
    cases b with
    | int n => simp_all [Cell.order]
    | real x => simpa [Cell.order] using h
    | _ => cases h
  | real x =>
    cases b with
    | int n => simpa [Cell.order] using h
    | real y =>
      have hswap := x.swap_compare y
      rw [show x.compare y = .eq from h] at hswap
      exact hswap.symm
    | _ => cases h
  | text s =>
    cases b with
    | text t => simp_all [Cell.order]
    | _ => cases h
  | blob data =>
    cases b with
    | blob other => exact (order_blob_eq_iff _ _).mpr ((order_blob_eq_iff _ _).mp h).symm
    | _ => cases h

theorem equals_comm (a b : Cell) : a.equals b = b.equals a := by
  have hcomm {a b : Cell} (h : a.equals b = true) : b.equals a = true := by
    simp only [Cell.equals, Bool.and_eq_true, bne_iff_ne, beq_iff_eq] at h ⊢
    obtain ⟨hne, horder⟩ := h
    refine ⟨?_, order_eq_comm horder⟩
    rintro rfl
    cases a with
    | null => exact hne rfl
    | _ => cases horder
  exact Bool.eq_iff_iff.mpr ⟨hcomm, hcomm⟩

/-! ### Tables -/

section Table

variable {κ : Type} {schema : Schema κ} {table next : Table κ}

theorem sameKey_comm (a b : Row κ) : schema.sameKey a b = schema.sameKey b a := by
  simp only [Schema.sameKey, equals_comm]

/-- The table with further rows. -/
def Table.add (table : Table κ) (rows : List (Row κ)) : Table κ :=
  { table with rows := table.rows ++ rows }

@[simp] theorem add_nil (table : Table κ) : table.add [] = table := by
  simp [Table.add]

theorem add_cons (table : Table κ) (row : Row κ) (rows : List (Row κ)) :
    table.add (row :: rows) = (table.add [row]).add rows := by
  simp [Table.add]

/-- Rows can be taken away. -/
theorem Table.Intact.of_add {rows : List (Row κ)} (h : (table.add rows).Intact schema) :
    table.Intact schema where
  enforced := h.enforced
  nullColumn? row hrow := h.nullColumn? row (List.mem_append_left _ hrow)
  isKept row hrow := h.isKept row (List.mem_append_left _ hrow)
  pairwise_key := (List.pairwise_append.mp h.pairwise_key).1

/-- A row is let in if it meets the constraints beside the rows before. -/
theorem insert_eq_ok_iff (h : table.Intact schema) {row : Row κ} (hrow : schema.IsKept row) :
    table.insert schema row = .ok next ↔ next = table.add [row] ∧ next.Intact schema := by
  constructor
  · intro hnext
    refine ⟨?_, h.insert hrow hnext⟩
    unfold Table.insert at hnext
    split at hnext
    · cases hnext
    · exact (Except.ok.inj hnext).symm
  · rintro ⟨rfl, hnext⟩
    have hnone : schema.violation? table.rows row = none := by
      refine (violation?_eq_none_iff _ _).mpr ⟨hnext.nullColumn? row ?_, fun other hother => ?_⟩
      · simp [Table.add]
      · exact (List.pairwise_append.mp hnext.pairwise_key).2.2 other hother row (by simp)
    rw [Table.insert, if_pos h.enforced, hnone]
    rfl

/-- Rows are let in, one after the other, if they all can stay. -/
theorem foldlM_insert_eq_ok_iff (h : table.Intact schema) {rows : List (Row κ)}
    (hrows : ∀ row ∈ rows, schema.IsKept row) :
    rows.foldlM (Table.insert schema) table = .ok next ↔
      next = table.add rows ∧ next.Intact schema := by
  induction rows generalizing table with
  | nil =>
    simp only [List.foldlM_nil, add_nil]
    constructor
    · intro hnext
      obtain rfl := Except.ok.inj hnext
      exact ⟨rfl, h⟩
    · rintro ⟨rfl, -⟩
      rfl
  | cons row rows ih =>
    obtain ⟨hrow, hrows⟩ := List.forall_mem_cons.mp hrows
    rw [List.foldlM_cons, bind_eq_ok_iff, add_cons]
    constructor
    · rintro ⟨first, hfirst, hnext⟩
      obtain ⟨rfl, hintact⟩ := (insert_eq_ok_iff h hrow).mp hfirst
      exact (ih hintact hrows).mp hnext
    · rintro ⟨rfl, hnext⟩
      -- If all rows can stay, each can stay beside those before it.
      have hintact := hnext.of_add
      exact ⟨_, (insert_eq_ok_iff h hrow).mpr ⟨rfl, hintact⟩, (ih hintact hrows).mpr ⟨rfl, hnext⟩⟩

/-- Rows that meet the constraints are no violation. -/
theorem firstViolation?_eq_none_of_pairwise {before rows : List (Row κ)}
    (hnull : ∀ row ∈ rows, schema.nullColumn? row = none)
    (hkey : (before ++ rows).Pairwise fun a b => schema.sameKey a b = false) :
    schema.firstViolation? before rows = none := by
  induction rows generalizing before with
  | nil => rfl
  | cons row rows ih =>
    obtain ⟨hrow, hrows⟩ := List.forall_mem_cons.mp hnull
    obtain ⟨-, htail, hcross⟩ := List.pairwise_append.mp hkey
    have hnone : schema.violation? (before ++ rows) row = none := by
      refine (violation?_eq_none_iff _ _).mpr ⟨hrow, fun other hother => ?_⟩
      rcases List.mem_append.mp hother with hother | hother
      · exact hcross other hother row (by simp)
      · -- Rows that follow are compared the other way round.
        rw [sameKey_comm]
        exact (List.pairwise_cons.mp htail).1 other hother
    rw [Schema.firstViolation?, hnone]
    exact ih hrows (by simpa using hkey)

variable [DecidableEq κ]

/-! ### Rows from given fields -/

/-- The parameters for a new row of given fields. -/
def Schema.parametersOf (schema : Schema κ) (mode : InsertMode) (fields : List (String × Value)) :
    Except Error (List (κ × Value)) :=
  match mode with
  | .records => schema.prepare (schema.draft fields)
  | .plain => schema.resolve (Error.unknownColumn schema.table) fields

/-- The new row for parameters. -/
def Schema.rowFor (schema : Schema κ) (parameters : List (κ × Value)) : Except Error (Row κ) :=
  (schema.storeAll 1 parameters).map Row.ofCells

/-- The new row of given fields. -/
def Schema.rowOf (schema : Schema κ) (mode : InsertMode) (fields : List (String × Value)) :
    Except Error (Row κ) :=
  schema.parametersOf mode fields >>= schema.rowFor

theorem isKept_of_rowFor {parameters : List (κ × Value)} {row : Row κ}
    (h : schema.rowFor parameters = .ok row) : schema.IsKept row := by
  obtain ⟨cells, hcells, rfl⟩ := map_eq_ok_iff.mp h
  exact isKept_ofCells (apply_of_mem_storeAll hcells)

theorem insertParameters_eq (schema : Schema κ) :
    Table.insertParameters schema =
      fun table parameters => schema.rowFor parameters >>= table.insert schema := by
  funext table parameters
  unfold Table.insertParameters Schema.rowFor
  cases schema.storeAll 1 parameters <;> rfl

theorem insertPlain_eq (table : Table κ) (given : List (List (String × Value))) :
    table.insertPlain schema given =
      given.foldlM (fun table fields => schema.rowOf .plain fields >>= table.insert schema)
        table := by
  unfold Table.insertPlain Schema.rowOf
  simp only [bind_assoc, insertParameters_eq]
  rfl

/-- The given rows are added to a table, one row for each of them; if there are any, the table is
there. -/
def Schema.Adds (schema : Schema κ) (mode : InsertMode) (given : List (List (String × Value)))
    (table next : Option (Table κ)) : Prop :=
  ∃ rows, List.Forall₂ (fun fields row => schema.rowOf mode fields = .ok row) given rows ∧
    (given ≠ [] → table.isSome) ∧ next = table.map (·.add rows)

theorem isKept_of_rowOf {mode : InsertMode} {fields : List (String × Value)} {row : Row κ}
    (h : schema.rowOf mode fields = .ok row) : schema.IsKept row := by
  obtain ⟨parameters, -, hrow⟩ := bind_eq_ok_iff.mp h
  exact isKept_of_rowFor hrow

/-- Insertion makes all rows, and lets them in one after the other. -/
theorem insertInto_eq_ok_iff_foldlM {mode : InsertMode} {given : List (List (String × Value))}
    (hgiven : given ≠ []) {table next : Option (Table κ)} :
    Database.insertInto schema mode table given = .ok next ↔
      ∃ found rows last, table = some found ∧
        List.Forall₂ (fun fields row => schema.rowOf mode fields = .ok row) given rows ∧
        rows.foldlM (Table.insert schema) found = .ok last ∧ next = some last := by
  unfold Database.insertInto
  rw [if_neg (by simpa using hgiven)]
  cases mode with
  | plain =>
    simp only [bind_eq_ok_iff, need_eq_ok_iff, insertPlain_eq, foldlM_bind_eq_ok_iff]
    constructor
    · rintro ⟨found, hfound, last, ⟨rows, hmade, hlast⟩, hnext⟩
      exact ⟨found, rows, last, hfound, hmade, hlast, (Except.ok.inj hnext).symm⟩
    · rintro ⟨found, rows, last, hfound, hmade, hlast, rfl⟩
      exact ⟨found, hfound, last, ⟨rows, hmade, hlast⟩, rfl⟩
  | records =>
    -- All parameters are prepared before the table is looked for and the first row is made.
    simp only [bind_eq_ok_iff, need_eq_ok_iff, insertParameters_eq, foldlM_bind_eq_ok_iff,
      mapM_eq_ok_iff, List.forall₂_map_left_iff, Schema.rowOf, forall₂_exists_iff]
    constructor
    · rintro ⟨parameters, hprepared, found, hfound, last, ⟨rows, hmade, hlast⟩, hnext⟩
      exact ⟨found, rows, last, hfound, ⟨parameters, hprepared, hmade⟩, hlast,
        (Except.ok.inj hnext).symm⟩
    · rintro ⟨found, rows, last, hfound, ⟨parameters, hprepared, hmade⟩, hlast, rfl⟩
      exact ⟨parameters, hprepared, found, hfound, last, ⟨rows, hmade, hlast⟩, rfl⟩

/-- **An insertion** adds all given rows if they can be made and can stay, and fails otherwise. -/
theorem insertInto_eq_ok_iff {mode : InsertMode} {given : List (List (String × Value))}
    {table next : Option (Table κ)} (h : ∀ found ∈ table, found.Intact schema) :
    Database.insertInto schema mode table given = .ok next ↔
      schema.Adds mode given table next ∧ ∀ found ∈ next, found.Intact schema := by
  by_cases hgiven : given = []
  · subst hgiven
    have hadd : (fun table : Table κ => table.add []) = id := funext add_nil
    simp only [Database.insertInto, Schema.Adds, List.isEmpty_nil, if_true,
      List.forall₂_nil_left_iff, exists_eq_left, hadd, Option.map_id, id, Except.ok.injEq]
    constructor
    · rintro rfl
      exact ⟨⟨fun hne => absurd rfl hne, rfl⟩, h⟩
    · rintro ⟨⟨-, rfl⟩, -⟩
      rfl
  · rw [insertInto_eq_ok_iff_foldlM hgiven]
    have hkept {rows : List (Row κ)}
        (hmade : List.Forall₂ (fun fields row => schema.rowOf mode fields = .ok row) given rows)
        (row : Row κ) (hrow : row ∈ rows) : schema.IsKept row := by
      obtain ⟨fields, -, hfields⟩ := exists_mem_of_forall₂ hmade hrow
      exact isKept_of_rowOf hfields
    constructor
    · rintro ⟨found, rows, last, rfl, hmade, hlast, rfl⟩
      obtain ⟨rfl, hintact⟩ := (foldlM_insert_eq_ok_iff (h found rfl) (hkept hmade)).mp hlast
      refine ⟨⟨rows, hmade, fun _ => rfl, rfl⟩, ?_⟩
      rintro _ ⟨⟩
      exact hintact
    · rintro ⟨⟨rows, hmade, hthere, rfl⟩, hintact⟩
      obtain ⟨found, rfl⟩ := Option.isSome_iff_exists.mp (hthere hgiven)
      refine ⟨found, rows, found.add rows, rfl, hmade, ?_, rfl⟩
      exact (foldlM_insert_eq_ok_iff (h found rfl) (hkept hmade)).mpr ⟨rfl, hintact _ rfl⟩

/-! ### Updates -/

/-- The position of a parameter matters to failures only. -/
theorem bind_eq_ok_of_position {position : Nat} {value : Value} {cell : Cell}
    (h : bind position value = .ok cell) (other : Nat) : bind other value = .ok cell := by
  cases value with
  | int n =>
    simp only [bind] at h ⊢
    split_ifs at h ⊢
    exact h
  | list items => cases h
  | object members => cases h
  | _ => exact h

omit [DecidableEq κ] in
theorem store_eq_ok_of_position {c : κ} {position : Nat} {value : Value} {cell : Cell}
    (h : schema.store c position value = .ok cell) (other : Nat) :
    schema.store c other value = .ok cell := by
  obtain ⟨bound, hbound, rfl⟩ := map_eq_ok_iff.mp h
  exact map_eq_ok_iff.mpr ⟨bound, bind_eq_ok_of_position hbound other, rfl⟩

/-- The values of given fields as their columns keep them. -/
def Schema.Stores (schema : Schema κ) : List (String × Value) → List (κ × Cell) → Prop :=
  List.Forall₂ fun given stored => schema.column? given.1 = some stored.1 ∧
    ∀ position, schema.store stored.1 position given.2 = .ok stored.2

omit [DecidableEq κ] in
theorem stores_iff (unknown : String → Error) (position : Nat) {given : List (String × Value)}
    {cells : List (κ × Cell)} :
    schema.Stores given cells ↔ ∃ parameters, schema.resolve unknown given = .ok parameters ∧
      schema.storeAll position parameters = .ok cells := by
  induction given generalizing position cells with
  | nil =>
    simp only [Schema.Stores, List.forall₂_nil_left_iff]
    constructor
    · rintro rfl
      exact ⟨[], rfl, rfl⟩
    · rintro ⟨parameters, hresolve, hcells⟩
      obtain rfl := Except.ok.inj hresolve
      exact (Except.ok.inj hcells).symm
  | cons field given ih =>
    simp only [Schema.Stores, List.forall₂_cons_left_iff]
    constructor
    · rintro ⟨stored, rest, ⟨hcolumn, hstore⟩, hrest, rfl⟩
      obtain ⟨parameters, hresolve, hcells⟩ := (ih (position + 1)).mp hrest
      refine ⟨(stored.1, field.2) :: parameters, ?_, ?_⟩
      · rw [Schema.resolve, hcolumn]
        exact bind_eq_ok_iff.mpr ⟨parameters, hresolve, rfl⟩
      · simp only [Schema.storeAll, bind_eq_ok_iff]
        exact ⟨stored.2, hstore position, rest, hcells, rfl⟩
    · rintro ⟨parameters, hresolve, hcells⟩
      rw [Schema.resolve] at hresolve
      split at hresolve
      · cases hresolve
      · rename_i c hcolumn
        obtain ⟨others, hothers, hresolve⟩ := bind_eq_ok_iff.mp hresolve
        obtain rfl := Except.ok.inj hresolve
        simp only [Schema.storeAll, bind_eq_ok_iff] at hcells
        obtain ⟨cell, hstore, rest, hrest, hcells⟩ := hcells
        obtain rfl := Except.ok.inj hcells
        exact ⟨(c, cell), rest, ⟨hcolumn, store_eq_ok_of_position hstore⟩,
          (ih _).mpr ⟨others, hothers, hrest⟩, rfl⟩

/-- A table after an update: the rows that match the stored condition have the stored values instead
of their own, and these rows are counted. -/
def Table.Updates (schema : Schema κ) (condition assignment : List (String × Value))
    (table next : Table κ) (count : Nat) : Prop :=
  ∃ wanted assigned, schema.Stores condition wanted ∧ schema.Stores assignment assigned ∧
    next = { table with
      rows := table.rows.map fun row => if row.matches wanted then row.assign assigned else row } ∧
    count = table.rows.countP fun row => row.matches wanted

/-- **An update** replaces all matching rows if all rows meet the constraints then, and fails
otherwise. -/
theorem Table.update_eq_ok_iff (h : table.Intact schema)
    {condition assignment : List (String × Value)} {count : Nat} :
    table.update schema condition assignment = .ok (next, count) ↔
      table.Updates schema condition assignment next count ∧ next.Intact schema := by
  constructor
  · intro hnext
    refine ⟨?_, h.update hnext⟩
    simp only [Table.update, bind_eq_ok_iff] at hnext
    obtain ⟨assignments, hassignments, conditions, hconditions, assigned, hassigned, wanted,
      hwanted, hnext⟩ := hnext
    split at hnext
    · cases hnext
    · obtain ⟨rfl, rfl⟩ := Prod.mk.inj (Except.ok.inj hnext)
      exact ⟨wanted, assigned, (stores_iff _ _).mpr ⟨conditions, hconditions, hwanted⟩,
        (stores_iff _ _).mpr ⟨assignments, hassignments, hassigned⟩, rfl, rfl⟩
  · rintro ⟨⟨wanted, assigned, hcondition, hassignment, rfl, rfl⟩, hnext⟩
    obtain ⟨assignments, hassignments, hassigned⟩ :=
      (stores_iff Error.noSuchColumn 1).mp hassignment
    obtain ⟨conditions, hconditions, hwanted⟩ :=
      (stores_iff Error.noSuchColumn (assignments.length + 1)).mp hcondition
    have hnone : schema.firstViolation? [] _ = none :=
      firstViolation?_eq_none_of_pairwise hnext.nullColumn? hnext.pairwise_key
    simp only [Table.update, bind_eq_ok_iff]
    refine ⟨assignments, hassignments, conditions, hconditions, assigned, hassigned, wanted,
      hwanted, ?_⟩
    rw [if_pos h.enforced, hnone]

end Table

/-! ### Databases -/

section Database

variable {db next : Database}

/-- A database with further cards and snapshots, one row for each of the given ones. -/
structure Database.Loads (mode : InsertMode) (cards snapshots : List (List (String × Value)))
    (db next : Database) : Prop where
  cards : cardSchema.Adds mode cards db.cards next.cards
  snapshots : snapshotSchema.Adds mode snapshots db.snapshots next.snapshots

theorem Database.load_eq_ok_iff (h : db.Intact) {mode : InsertMode}
    {cards snapshots : List (List (String × Value))} :
    db.load mode cards snapshots = .ok next ↔
      db.Loads mode cards snapshots next ∧ next.Intact := by
  simp only [Database.load, bind_eq_ok_iff, insertInto_eq_ok_iff h.cards,
    insertInto_eq_ok_iff h.snapshots]
  constructor
  · rintro ⟨cardTable, ⟨hcards, hcardTable⟩, snapshotTable, ⟨hsnapshots, hsnapshotTable⟩, hnext⟩
    obtain rfl := Except.ok.inj hnext
    exact ⟨⟨hcards, hsnapshots⟩, ⟨hcardTable, hsnapshotTable⟩⟩
  · rintro ⟨⟨hcards, hsnapshots⟩, hnext⟩
    exact ⟨next.cards, ⟨hcards, hnext.cards⟩, next.snapshots, ⟨hsnapshots, hnext.snapshots⟩, rfl⟩

/-- A database after an update of one of its tables. -/
def Database.Updates (table : TableName) (condition assignment : List (String × Value))
    (db next : Database) (count : Nat) : Prop :=
  match table with
  | .cards => ∃ found updated, db.cards = some found ∧ next = { db with cards := some updated } ∧
      found.Updates cardSchema condition assignment updated count
  | .snapshots => ∃ found updated, db.snapshots = some found ∧
      next = { db with snapshots := some updated } ∧
      found.Updates snapshotSchema condition assignment updated count

/-- An update of one table, put back by `set`. -/
theorem updateIn_eq_ok_iff {κ : Type} [DecidableEq κ] {schema : Schema κ}
    {table : Option (Table κ)} (h : ∀ found ∈ table, found.Intact schema)
    (set : Table κ → Database) {condition assignment : List (String × Value)} {count : Nat} :
    (do
      let found ← Database.need schema table
      let (updated, count) ← found.update schema condition assignment
      return (set updated, count)) = .ok (next, count) ↔
    ∃ found updated, table = some found ∧ next = set updated ∧
      found.Updates schema condition assignment updated count ∧ updated.Intact schema := by
  simp only [bind_eq_ok_iff, need_eq_ok_iff]
  constructor
  · rintro ⟨found, hfound, ⟨updated, _⟩, hupdated, hnext⟩
    obtain ⟨rfl, rfl⟩ := Prod.mk.inj (Except.ok.inj hnext)
    exact ⟨found, updated, hfound, rfl, (Table.update_eq_ok_iff (h found hfound)).mp hupdated⟩
  · rintro ⟨found, updated, hfound, rfl, hupdated⟩
    exact ⟨found, hfound, (updated, count),
      (Table.update_eq_ok_iff (h found hfound)).mpr hupdated, rfl⟩

theorem Database.update_eq_ok_iff (h : db.Intact) {table : TableName}
    {condition assignment : List (String × Value)} {count : Nat} :
    db.update table condition assignment = .ok (next, count) ↔
      db.Updates table condition assignment next count ∧ next.Intact := by
  cases table with
  | cards =>
    refine (updateIn_eq_ok_iff h.cards fun cards => { db with cards := some cards }).trans ?_
    constructor
    · rintro ⟨found, updated, hfound, rfl, hupdates, hintact⟩
      exact ⟨⟨found, updated, hfound, rfl, hupdates⟩, h.setCards hintact⟩
    · rintro ⟨⟨found, updated, hfound, rfl, hupdates⟩, hnext⟩
      exact ⟨found, updated, hfound, rfl, hupdates, hnext.cards updated rfl⟩
  | snapshots =>
    refine (updateIn_eq_ok_iff h.snapshots fun snapshots =>
      { db with snapshots := some snapshots }).trans ?_
    constructor
    · rintro ⟨found, updated, hfound, rfl, hupdates, hintact⟩
      exact ⟨⟨found, updated, hfound, rfl, hupdates⟩, h.setSnapshots hintact⟩
    · rintro ⟨⟨found, updated, hfound, rfl, hupdates⟩, hnext⟩
      exact ⟨found, updated, hfound, rfl, hupdates, hnext.snapshots updated rfl⟩

end Database

end Store

end CardHealth
