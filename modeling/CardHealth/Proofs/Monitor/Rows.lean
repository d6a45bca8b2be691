import CardHealth.Proofs.CardStatus.Field
import CardHealth.Proofs.Monitor.List

/-!
# Rows that are no records

A row of the status query is checked column by column (`StatusRow.exists_check_iff`,
`StatusRow.check_eq_error_iff`).  A list is kept back by the first of the returned rows that is
refused, and the failure is that row's refusal (`list_eq_row_iff`).  `checked_field_by_field` says
it of all values and all lists.
-/

namespace CardHealth

open Store CardStatus

/-! ### Columns -/

namespace Store

namespace StatusRow

/-- The value that a row has for a field. -/
def column (row : StatusRow) : Field → Value
  | .id => (row.card .id).toValue
  | .name => (row.card .name).toValue
  | .data => (row.snapshot .sectorMap).toValue
  | .lastUpdated => (row.snapshot .lastUpdated).toValue
  | .size => (row.card .size).toValue
  | .status => (row.snapshot .status).toValue
  | .rate => (row.snapshot .rate).toValue
  | .numBadSectors => (row.snapshot .numBadSectors).toValue
  | .curRoundNum => ((row.snapshot .curRoundNum).add (row.snapshot .roundNumOffset)).toValue

/-- A row has a value for every field. -/
theorem lastNamed?_fields_key (row : StatusRow) (f : Field) :
    lastNamed? f.key row.fields = some (row.column f) := by
  cases f <;> simp [lastNamed?, fields, column, Field.key]

/-- A row is refused exactly if a column is rejected, and for all columns that are. -/
theorem check_eq_error_iff (row : StatusRow) (refusal : Refusal) :
    row.check = .error refusal ↔
      (∃ (f : Field) (fault : Fault), f.check (row.column f) = .error fault) ∧
        refusal = ⟨"CardStatus", faults fun f => some (row.column f)⟩ := by
  unfold check
  rw [check_object_eq_error_iff]
  simp only [lastNamed?_fields_key, Field.settle]

/-- A row is a record exactly if every column is accepted. -/
theorem exists_check_iff (row : StatusRow) :
    (∃ s, row.check = .ok s) ↔ ∀ f : Field, ∃ value, f.check (row.column f) = .ok value := by
  unfold check
  rw [exists_check_object_iff]
  simp only [lastNamed?_fields_key, Field.settle]

end StatusRow

/-- Rows are refused as the first of them that is refused. -/
theorem checkRows_eq_error_iff (rows : List StatusRow) (refusal : Refusal) :
    checkRows rows = .error refusal ↔
      ∃ before row after, rows = before ++ row :: after ∧
        (∀ r ∈ before, ∀ f : Field, ∃ value, f.check (r.column f) = .ok value) ∧
        (∃ (f : Field) (fault : Fault), f.check (row.column f) = .error fault) ∧
        refusal = ⟨"CardStatus", faults fun f => some (row.column f)⟩ := by
  unfold checkRows
  rw [mapM_eq_error_iff]
  simp only [StatusRow.exists_check_iff, StatusRow.check_eq_error_iff]

/-- One rejected column is enough. -/
theorem exists_checkRows_eq_error_iff (rows : List StatusRow) :
    (∃ refusal, checkRows rows = .error refusal) ↔
      ∃ row ∈ rows, ∃ (f : Field) (fault : Fault), f.check (row.column f) = .error fault := by
  constructor
  · rintro ⟨refusal, hrefused⟩
    obtain ⟨before, row, after, rfl, -, hrow, -⟩ :=
      (checkRows_eq_error_iff rows refusal).mp hrefused
    exact ⟨row, by simp, hrow⟩
  · rintro ⟨row, hmem, hrow⟩
    have hrefused : row.check = .error ⟨"CardStatus", faults fun f => some (row.column f)⟩ :=
      (StatusRow.check_eq_error_iff row _).mpr ⟨hrow, rfl⟩
    apply exists_checkRows_eq_error hmem
    intro s hs
    rw [hrefused] at hs
    cases hs

end Store

/-! ### Lists -/

namespace Monitor

/-- A list fails for a row exactly if the query returns rows and one of them is refused. -/
theorem list_eq_row_iff (m : Monitor) (since : Option Int) (refusal : Refusal) :
    (m.list since).1 = .error (.row refusal) ↔
      ∃ db rows, m.found? = some db ∧ db.statusRows since = .ok rows ∧
        checkRows rows = .error refusal := by
  constructor
  · intro h
    rw [list_fst] at h
    rcases bind_eq_error_iff.mp h with hconnect | ⟨connection, hconnect, h⟩
    · -- A connection does not fail for a row.
      obtain ⟨e, he⟩ | ⟨e, he⟩ | ⟨engine, e, he⟩ := connect_error_cases hconnect
      · cases he
      · cases he
      · cases he
    · cases hdb : connection.database with
      | error e =>
        have hrows : rows connection since = .error (.store e) := by
          unfold rows
          rw [hdb]
          rfl
        rw [hrows] at h
        cases h
      | ok db =>
        have hfound : m.found? = some db := found?_eq_some_iff.mpr ⟨connection, hconnect, hdb⟩
        have hlist := list_fst_of_found? hfound since
        rw [list_fst, hconnect] at hlist
        have h := hlist.symm.trans h
        cases hrows : db.statusRows since with
        | error e =>
          rw [hrows] at h
          cases h
        | ok found =>
          rw [hrows] at h
          refine ⟨db, found, hfound, hrows, ?_⟩
          have hrecords : recordsOf found = .error (.row refusal) := h
          unfold recordsOf at hrecords
          split at hrecords
          · cases hrecords
          · rename_i refused hrefused
            rw [hrefused]
            exact congrArg Except.error (Failure.row.inj (Except.error.inj hrecords))
  · rintro ⟨db, rows, hdb, hrows, hrefused⟩
    rw [list_fst_of_found? hdb, hrows]
    show recordsOf rows = _
    rw [recordsOf, hrefused]

/-- **Values are checked field by field, and rows with them**.

A value that is no object is refused as such.  An object is a record if each of the nine fields is
accepted on its own, and then it has the accepted values; otherwise it is refused for exactly the
fields that are missing or rejected, in their order.  What becomes of a field depends on the value
under its key alone, so that other keys and the order of the keys do not matter.

A list fails for a row exactly if one of the rows that the query returns has a rejected column.  The
refusal is that of the first such row, and there are no records. -/
theorem checked_field_by_field :
    (∀ v, (∀ fields, v ≠ .object fields) →
      CardStatus.check v = .error ⟨"CardStatus", [⟨none, .notARecord "CardStatus"⟩]⟩) ∧
    (∀ fields,
      ((∃ s, CardStatus.check (.object fields) = .ok s) ↔
        ∀ f : Field, ∃ value, f.settle (lastNamed? f.key fields) = .ok value) ∧
      (∀ s, CardStatus.check (.object fields) = .ok s →
        ∀ f : Field, f.settle (lastNamed? f.key fields) = .ok (s.get f)) ∧
      (∀ refusal, CardStatus.check (.object fields) = .error refusal →
        refusal = ⟨"CardStatus", faults fun f => lastNamed? f.key fields⟩) ∧
      (∀ others, (∀ f : Field, lastNamed? f.key others = lastNamed? f.key fields) →
        CardStatus.check (.object others) = CardStatus.check (.object fields)) ∧
      (((known fields).map (·.1)).Nodup → ∀ others, (known others).Perm (known fields) →
        CardStatus.check (.object others) = CardStatus.check (.object fields))) ∧
    ∀ (m : Monitor) (since : Option Int),
      ((∃ refusal, (m.list since).1 = .error (.row refusal)) ↔
        ∃ db rows, m.found? = some db ∧ db.statusRows since = .ok rows ∧
          ∃ row ∈ rows, ∃ (f : Field) (fault : Fault), f.check (row.column f) = .error fault) ∧
      (∀ refusal, (m.list since).1 = .error (.row refusal) ↔
        ∃ db before row after, m.found? = some db ∧
          db.statusRows since = .ok (before ++ row :: after) ∧
          (∀ r ∈ before, ∀ f : Field, ∃ value, f.check (r.column f) = .ok value) ∧
          (∃ (f : Field) (fault : Fault), f.check (row.column f) = .error fault) ∧
          refusal = ⟨"CardStatus", faults fun f => some (row.column f)⟩) := by
  refine ⟨?_, ?_, ?_⟩
  · intro v hv
    cases v with
    | object fields => exact absurd rfl (hv fields)
    | _ => rfl
  · intro fields
    refine ⟨?_, ?_, ?_, ?_, ?_⟩
    · exact exists_check_object_iff fields
    · intro s hs
      exact (check_object_eq_ok_iff_settle fields s).mp hs
    · intro refusal hrefused
      exact ((check_object_eq_error_iff fields refusal).mp hrefused).2
    · intro others hsame
      exact check_object_congr hsame
    · intro hdistinct others hperm
      exact check_object_of_perm hdistinct hperm
  · intro m since
    constructor
    · constructor
      · rintro ⟨refusal, hlist⟩
        obtain ⟨db, rows, hdb, hrows, hrefused⟩ := (list_eq_row_iff m since refusal).mp hlist
        exact ⟨db, rows, hdb, hrows, (exists_checkRows_eq_error_iff rows).mp ⟨refusal, hrefused⟩⟩
      · rintro ⟨db, rows, hdb, hrows, hrow⟩
        obtain ⟨refusal, hrefused⟩ := (exists_checkRows_eq_error_iff rows).mpr hrow
        exact ⟨refusal, (list_eq_row_iff m since refusal).mpr ⟨db, rows, hdb, hrows, hrefused⟩⟩
    · intro refusal
      rw [list_eq_row_iff]
      simp only [checkRows_eq_error_iff]
      constructor
      · rintro ⟨db, _, hdb, hrows, before, row, after, rfl, hbefore, hrow, hrefusal⟩
        exact ⟨db, before, row, after, hdb, hrows, hbefore, hrow, hrefusal⟩
      · rintro ⟨db, before, row, after, hdb, hrows, hbefore, hrow, hrefusal⟩
        exact ⟨db, _, hdb, hrows, before, row, after, rfl, hbefore, hrow, hrefusal⟩

/-- A service with three cards.  The time of the active snapshot of the first one by name is a
number, and that of each other one is stored as bytes. -/
def timedByLetters : Monitor :=
  let snapshotOf (id : Int) (time : Value) : List (String × Value) :=
    [("id", .int id), ("last_updated", time), ("is_active", .bool true)]
  (smallStart.run
    [.createTables true,
     .load .records
       [[("id", .int 1), ("name", .text "B"), ("size", .int 7)],
        [("id", .int 2), ("name", .text "A"), ("size", .int 8)],
        [("id", .int 3), ("name", .text "C"), ("size", .int 9)]]
       [snapshotOf 2 (.int 5), snapshotOf 1 (.bytes .fixed [0x78]),
        snapshotOf 3 (.bytes .fixed [0x79])]]).2

/-- The fields of an object whose identifier has a fraction and whose name is missing. -/
def faultyFields : List (String × Value) :=
  [("size", .int 4), ("id", .float (.finite false 1)), ("colour", .null),
   ("rate", .int 1), ("status", .text "0_0"), ("data", .null), ("cur_round_num", .text "x"),
   ("num_bad_sectors", .bool true), ("last_updated", .int 5)]

theorem checked_field_by_field_small :
    CardStatus.check .null = .error ⟨"CardStatus", [⟨none, .notARecord "CardStatus"⟩]⟩ ∧
    CardStatus.check (.object faultyFields) =
      .error ⟨"CardStatus", [⟨some "id", .fractionalInteger⟩, ⟨some "name", .missing⟩,
        ⟨some "cur_round_num", .unreadableInteger⟩]⟩ ∧
    CardStatus.check (.object (faultyFields.reverse ++ [("id ", .int 1)])) =
      CardStatus.check (.object faultyFields) ∧
    (timedByLetters.list none).1 =
      .error (.row ⟨"CardStatus", [⟨some "last_updated", .unreadableInteger⟩]⟩) := by
  obtain ⟨hvalue, hobject, hlist⟩ := checked_field_by_field
  obtain ⟨-, -, hrefused, -, hperm⟩ := hobject faultyFields
  refine ⟨hvalue .null (by simp), ?_, ?_, ?_⟩
  · have hfailed : (CardStatus.check (.object faultyFields)).toOption.isNone = true := by
      decide +kernel
    cases hchecked : CardStatus.check (.object faultyFields) with
    | ok s =>
      rw [hchecked] at hfailed
      cases hfailed
    | error refusal =>
      rw [hrefused refusal hchecked]
      decide +kernel
  · apply hperm (by decide)
    have hknown : known (faultyFields.reverse ++ [("id ", .int 1)]) =
        (known faultyFields).reverse := by
      rw [known, List.filter_append, List.filter_reverse]
      exact List.append_nil _
    rw [hknown]
    exact List.reverse_perm _
  · -- The rows are in the order of the names: a record, and two rows that are none.
    have hsmall : ∃ db ∈ timedByLetters.found?, ∃ cards ∈ db.cards, ∃ snapshots ∈ db.snapshots,
        (selectedRows cards.rows snapshots.rows none).Pairwise (fun a b => a.nameLe b = true) ∧
        (selectedRows cards.rows snapshots.rows none).length = 3 ∧
        (∀ first ∈ (selectedRows cards.rows snapshots.rows none)[0]?,
          ∀ f ∈ Field.all, (f.check (first.column f)).toOption.isSome = true) ∧
        ∀ row ∈ (selectedRows cards.rows snapshots.rows none)[1]?,
          (faults fun f => some (row.column f)) =
            [⟨some "last_updated", .unreadableInteger⟩] := by
      decide +kernel
    obtain ⟨db, hdb, cards, hcards, snapshots, hsnapshots, hsorted, hlength, hfirst, hsecond⟩ :=
      hsmall
    obtain ⟨first, row, last, hrows⟩ := List.length_eq_three.mp hlength
    rw [hrows] at hsorted hfirst hsecond
    have hstatusRows : db.statusRows none = .ok ([first] ++ row :: [last]) := by
      rw [statusRows_of_some none hcards hsnapshots, hrows, List.mergeSort_of_pairwise hsorted]
      rfl
    have hfaults := hsecond row rfl
    refine ((hlist timedByLetters none).2 _).mpr
      ⟨db, [first], row, [last], hdb, hstatusRows, ?_, ?_, ?_⟩
    · intro r hr f
      obtain rfl := List.mem_singleton.mp hr
      obtain ⟨value, hvalue⟩ := Option.isSome_iff_exists.mp (hfirst r rfl f f.mem_all)
      exact ⟨value, eq_ok_of_toOption_eq_some hvalue⟩
    · have hmem : ⟨some "last_updated", .unreadableInteger⟩ ∈
          faults fun f => some (row.column f) := by
        rw [hfaults]
        exact List.mem_singleton_self _
      obtain ⟨f, fault, hfault, -⟩ := mem_faults_iff.mp hmem
      exact ⟨f, fault, hfault⟩
    · rw [hfaults]

end Monitor

end CardHealth
