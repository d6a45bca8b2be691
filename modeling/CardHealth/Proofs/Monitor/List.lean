import CardHealth.Proofs.Monitor.Integrity
import CardHealth.Proofs.Store.Contents

/-!
# The list of records

What `Monitor.list` gives.

* `list_eq_ok_iff`: on stores of any contents, when there is a list.
* `exists_list_eq_join`: on well-typed stores, the list is the join of the cards with their active
  snapshots, ordered by name.
* `exact_round_of_list`: round numbers are exact sums, or there is no list.
-/

namespace CardHealth

open Store

namespace Monitor

/-! ### Queries through a connection -/

theorem records_fst (m : Monitor) (connection : Connection) (since : Option Int) :
    (m.records connection since).1 = rows connection since >>= recordsOf := by
  unfold records
  cases rows connection since <;> rfl

theorem list_fst (m : Monitor) (since : Option Int) :
    (m.list since).1 = m.connect.1 >>= fun connection => rows connection since >>= recordsOf := by
  unfold list
  split
  · rename_i hconnect
    rw [hconnect]
    rfl
  · rename_i hconnect
    rw [hconnect]
    exact records_fst _ _ _

theorem settings_error_cases {m : Monitor} {f : Failure} (h : m.settings.1 = .error f) :
    ∃ e, f = .settings e := by
  unfold settings at h
  split at h
  · cases h
  · split at h
    · cases h
    · obtain rfl := Except.error.inj h
      exact ⟨_, rfl⟩

theorem engine_error_cases {m : Monitor} {f : Failure} (h : m.engine.1 = .error f) :
    (∃ e, f = .settings e) ∨ ∃ e, f = .engine e := by
  unfold engine at h
  split at h
  · cases h
  · split at h
    · rename_i hfailed
      obtain rfl := Except.error.inj h
      exact .inl (settings_error_cases (congrArg Prod.fst hfailed))
    · split at h
      · cases h
      · obtain rfl := Except.error.inj h
        exact .inr ⟨_, rfl⟩

/-- Why there is no connection: there are no settings, there is no engine, or it cannot be
opened. -/
theorem connect_error_cases {m : Monitor} {f : Failure} (h : m.connect.1 = .error f) :
    (∃ e, f = .settings e) ∨ (∃ e, f = .engine e) ∨ ∃ engine e, f = .connection engine e := by
  unfold connect at h
  split at h
  · rename_i hfailed
    obtain rfl := Except.error.inj h
    rcases engine_error_cases (congrArg Prod.fst hfailed) with hsettings | hengine
    · exact .inl hsettings
    · exact .inr (.inl hengine)
  · split at h
    · cases h
    · obtain rfl := Except.error.inj h
      exact .inr (.inr ⟨_, _, rfl⟩)

/-- The database that a connection leads to if it is opened. -/
def found? (m : Monitor) : Option Database :=
  m.connect.1.toOption.bind fun connection => connection.database.toOption

theorem found?_eq_some_iff {m : Monitor} {db : Database} :
    m.found? = some db ↔
      ∃ connection, m.connect.1 = .ok connection ∧ connection.database = .ok db := by
  unfold found?
  cases m.connect.1 with
  | error f => simp [Except.toOption]
  | ok connection => cases hdb : connection.database <;> simp [Except.toOption, hdb]

variable {m : Monitor} {db : Database} {cards : List Card} {snapshots : List Snapshot}

theorem list_fst_of_found? (hdb : m.found? = some db) (since : Option Int) :
    (m.list since).1 = (db.statusRows since).mapError .store >>= recordsOf := by
  obtain ⟨connection, hconnect, hdb⟩ := found?_eq_some_iff.mp hdb
  have hrows : rows connection since = (db.statusRows since).mapError .store := by
    unfold rows
    rw [hdb, Except.bind]
    cases db.statusRows since <;> rfl
  rw [list_fst, hconnect, ← hrows]
  rfl

/-- When there is a list, and which one: a database is found, its status query has rows, and all of
them are records. -/
theorem list_eq_ok_iff (m : Monitor) (since : Option Int) (records : List CardStatus) :
    (m.list since).1 = .ok records ↔
      ∃ db rows built, m.found? = some db ∧ db.statusRows since = .ok rows ∧
        checkRows rows = .ok built ∧ settle built = records := by
  constructor
  · intro h
    rw [list_fst, bind_eq_ok_iff] at h
    obtain ⟨connection, hconnect, h⟩ := h
    obtain ⟨rows, hrows, hrecords⟩ := bind_eq_ok_iff.mp h
    unfold Monitor.rows at hrows
    unfold recordsOf at hrecords
    split at hrows
    · rename_i found hquery
      obtain ⟨db, hdb, hquery⟩ := bind_eq_ok_iff.mp hquery
      obtain rfl := Except.ok.inj hrows
      split at hrecords
      · rename_i built hbuilt
        exact ⟨db, found, built, found?_eq_some_iff.mpr ⟨connection, hconnect, hdb⟩, hquery, hbuilt,
          Except.ok.inj hrecords⟩
      · cases hrecords
    · cases hrows
  · rintro ⟨db, rows, built, hdb, hrows, hbuilt, rfl⟩
    rw [list_fst_of_found? hdb, hrows]
    show recordsOf rows = _
    rw [recordsOf, hbuilt]

/-- One selected pair that is no record keeps the whole list back. -/
theorem exists_list_eq_error {cards : Table CardColumn} {snapshots : Table SnapshotColumn}
    {since : Option Int} {row : StatusRow} (hdb : m.found? = some db)
    (hcards : db.cards = some cards) (hsnapshots : db.snapshots = some snapshots)
    (hrow : row ∈ selectedRows cards.rows snapshots.rows since) (hne : ∀ s, row.check ≠ .ok s) :
    ∃ failure, (m.list since).1 = .error failure := by
  rw [list_fst_of_found? hdb, statusRows_of_some since hcards hsnapshots]
  split
  · obtain ⟨refusal, hrefusal⟩ := exists_checkRows_eq_error (List.mem_mergeSort.mpr hrow) hne
    refine ⟨.row refusal, ?_⟩
    show recordsOf _ = _
    rw [recordsOf, hrefusal]
  · exact ⟨.store .oversizedInteger, rfl⟩

theorem Reached.intact_of_found? (hm : m.Reached) (hdb : m.found? = some db) : db.Intact := by
  obtain ⟨connection, hconnect, hdb⟩ := found?_eq_some_iff.mp hdb
  exact intact_of_connect hm.intact hconnect hdb

/-! ### A small store -/

/-- A service with a file database that does not exist yet. -/
def smallStart : Monitor :=
  start { environment := [("CARDMONITOR_DATABASE_URL", "sqlite:///monitor.db")] }

/-- Creates the tables and loads two cards and four snapshots, one of them not active and one
without a card; the round number of the first snapshot has this offset. -/
def smallSteps (offset : Int) : List Step :=
  [.createTables true,
   .load .records
     [[("id", .int 1), ("name", .text "B"), ("size", .int 7)],
      [("id", .int 2), ("name", .text "A"), ("size", .int 8)]]
     [[("id", .int 1), ("last_updated", .int 100), ("cur_round_num", .int 3),
       ("round_num_offset", .int offset), ("is_active", .bool true)],
      [("id", .int 1), ("last_updated", .int 90)],
      [("id", .int 3), ("last_updated", .int 110), ("is_active", .bool true)],
      [("id", .int 2), ("last_updated", .int 95), ("is_active", .bool true),
       ("consolidated_sector_map", .bytes .fixed [1, 2])]]]

/-- The service after these steps. -/
def small (offset : Int) : Monitor :=
  (smallStart.run (smallSteps offset)).2

/-- The cards of the small store. -/
def smallCards : List Card :=
  [⟨1, "B", 7⟩, ⟨2, "A", 8⟩]

/-- The snapshots of the small store with the offset `-1`. -/
def smallSnapshots : List Snapshot :=
  [⟨1, 100, none, 3, -1, 0, 0, .zero, true, rfl⟩, ⟨1, 90, none, 0, 0, 0, 0, .zero, false, rfl⟩,
   ⟨3, 110, none, 0, 0, 0, 0, .zero, true, rfl⟩,
   ⟨2, 95, some [1, 2], 0, 0, 0, 0, .zero, true, rfl⟩]

theorem reached_small (offset : Int) : (small offset).Reached :=
  ⟨smallStart, smallSteps offset, by simp [smallStart, start], by simp [smallSteps], rfl⟩

theorem exists_small_holds :
    ∃ db ∈ (small (-1)).found?, db.Holds smallCards smallSnapshots := by
  decide +kernel

/-! ### Well-typed stores -/

theorem list_eq_listing (hdb : m.found? = some db) (hholds : db.Holds cards snapshots)
    {since : Option Int} (hfits : boundFits since = true) :
    (m.list since).1 = .ok (listing cards snapshots since) := by
  obtain ⟨rows, records, hrows, hrecords, hsettle⟩ := hholds.exists_statusRows hfits
  exact (list_eq_ok_iff m since _).mpr ⟨db, rows, records, hdb, hrows, hrecords, hsettle⟩

/-- A bound beyond 64 bits is refused by the store. -/
theorem list_of_not_boundFits (hdb : m.found? = some db) (hholds : db.Holds cards snapshots)
    {since : Option Int} (hfits : ¬ boundFits since = true) :
    (m.list since).1 = .error (.store .oversizedInteger) := by
  obtain ⟨cardTable, snapshotTable, hcards, hsnapshots, -, -⟩ := hholds.exists_tables
  rw [list_fst_of_found? hdb, statusRows_of_some since hcards hsnapshots, if_neg hfits]
  rfl

/-- **The list on a well-typed store** is the join of the cards with their active snapshots: one
record for each pair that is to be reported, and nothing else, in the order of the names.  In a
reached state no card is in it twice if none has two active snapshots. -/
theorem exists_list_eq_join (hdb : m.found? = some db) (hholds : db.Holds cards snapshots)
    {since : Option Int} (hsince : ∀ n ∈ since, -2 ^ 63 ≤ n ∧ n < 2 ^ 63) :
    ∃ records, (m.list since).1 = .ok records ∧
      (records : Multiset CardStatus) =
        (((cards : Multiset Card) ×ˢ (snapshots : Multiset Snapshot)).filter
          (IsReported since)).map recordOf ∧
      records.Pairwise (fun s t => s.name ≤ t.name) ∧
      (m.Reached → ((snapshots.filter (·.isActive)).map (·.id)).Nodup →
        (records.map (·.id)).Nodup) := by
  have hperm := listing_perm cards snapshots since
  refine ⟨_, list_eq_listing hdb hholds ((boundFits_iff since).mpr hsince), ?_,
    pairwise_name_listing cards snapshots since, fun hm hactive => ?_⟩
  · rw [← coe_reported, Multiset.map_coe]
    exact Multiset.coe_eq_coe.mpr hperm
  · have hcards := hholds.nodup_card_id (hm.intact_of_found? hdb)
    rw [(hperm.map (·.id)).nodup_iff, List.map_map]
    exact nodup_reported_id hcards hactive since

theorem exists_list_small_eq_join :
    ∃ records, ((small (-1)).list (some 95)).1 = .ok records ∧
      (records : Multiset CardStatus) =
        (((smallCards : Multiset Card) ×ˢ (smallSnapshots : Multiset Snapshot)).filter
          (IsReported (some 95))).map recordOf ∧
      records.Pairwise (fun s t => s.name ≤ t.name) ∧ (records.map (·.id)).Nodup := by
  have hsince : ∀ n ∈ some (95 : Int), -2 ^ 63 ≤ n ∧ n < 2 ^ 63 := by
    rintro _ ⟨⟩
    decide
  obtain ⟨db, hdb, hholds⟩ := exists_small_holds
  obtain ⟨records, hlist, hjoin, hnames, hids⟩ := exists_list_eq_join hdb hholds hsince
  exact ⟨records, hlist, hjoin, hnames, hids (reached_small _) (by decide +kernel)⟩

/-! ### Round numbers -/

/-- **Round numbers are exact sums**.  If there is a list, its records are made from the selected
pairs of the store, one from each, and where a pair stores two integers, the round number is their
sum.  If the sum of two stored integers leaves the 64-bit range, there is no list. -/
theorem exact_round_of_list (m : Monitor) (since : Option Int) :
    (∀ records, (m.list since).1 = .ok records →
      ∃ db cards snapshots built, m.found? = some db ∧ db.cards = some cards ∧
        db.snapshots = some snapshots ∧ built.Perm records ∧
        List.Forall₂
          (fun row s => row.check = .ok s ∧ ∀ a b, row.HasRound a b → s.curRoundNum = a + b)
          (selectedRows cards.rows snapshots.rows since) built) ∧
    (∀ db cards snapshots, m.found? = some db → db.cards = some cards →
      db.snapshots = some snapshots → ∀ row ∈ selectedRows cards.rows snapshots.rows since,
      ∀ a b, row.HasRound a b → ¬ (-2 ^ 63 ≤ a + b ∧ a + b < 2 ^ 63) →
      ∃ failure, (m.list since).1 = .error failure) := by
  constructor
  · intro records h
    obtain ⟨db, rows, sorted, hdb, hrows, hsorted, rfl⟩ := (list_eq_ok_iff m since records).mp h
    obtain ⟨cards, snapshots, hcards, hsnapshots, -, rfl⟩ :=
      (statusRows_eq_ok_iff db since rows).mp hrows
    -- Before they are sorted, the rows make the same records in another order.
    obtain ⟨built, hbuilt, hperm⟩ := List.perm_comp_forall₂ (List.mergeSort_perm _ _).symm
      ((checkRows_eq_ok_iff _ _).mp hsorted)
    refine ⟨db, cards, snapshots, built, hdb, hcards, hsnapshots,
      hperm.trans (settle_perm sorted).symm, hbuilt.imp fun row s hs => ⟨hs, fun a b hround => ?_⟩⟩
    exact hround.curRoundNum_eq hs
  · intro db cards snapshots hdb hcards hsnapshots row hrow a b hround hout
    exact exists_list_eq_error hdb hcards hsnapshots hrow fun s hs => hout (hround.fits_add hs)

theorem exact_round_of_small_list :
    (∃ db cards snapshots built, (small (-1)).found? = some db ∧ db.cards = some cards ∧
      db.snapshots = some snapshots ∧ built.Perm (listing smallCards smallSnapshots none) ∧
      List.Forall₂
        (fun row s => row.check = .ok s ∧ ∀ a b, row.HasRound a b → s.curRoundNum = a + b)
        (selectedRows cards.rows snapshots.rows none) built) ∧
    ∃ failure, ((small (2 ^ 63 - 3)).list none).1 = .error failure := by
  constructor
  · obtain ⟨db, hdb, hholds⟩ := exists_small_holds
    exact (exact_round_of_list _ none).1 _ (list_eq_listing hdb hholds rfl)
  · have hsmall : ∃ db ∈ (small (2 ^ 63 - 3)).found?, ∃ cards ∈ db.cards,
        ∃ snapshots ∈ db.snapshots, ∃ row ∈ selectedRows cards.rows snapshots.rows none,
          row.snapshot .curRoundNum = .int 3 ∧
            row.snapshot .roundNumOffset = .int (2 ^ 63 - 3) := by
      decide +kernel
    obtain ⟨db, hdb, cards, hcards, snapshots, hsnapshots, row, hrow, hround, hoffset⟩ := hsmall
    exact (exact_round_of_list _ none).2 db cards snapshots hdb hcards hsnapshots row hrow 3
      (2 ^ 63 - 3) ⟨hround, hoffset, by decide, by decide⟩ (by decide)

end Monitor

end CardHealth
