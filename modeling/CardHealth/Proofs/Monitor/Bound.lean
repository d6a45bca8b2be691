import CardHealth.Proofs.Monitor.List
import CardHealth.Proofs.Store.Bound

/-!
# Bounded lists

What a bound does to the list of records on a store of any contents.  Where the times are stored as
numbers, no record is older than the bound; a time that is stored as a text or as a byte string
passes every bound, whatever it is reported as (`list_bounded`).  `not_forall_le_lastUpdated` shows
such a time.
-/

namespace CardHealth

open Store

namespace Monitor

/-- The records of a list are made from the rows that the query selects, one from each. -/
theorem exists_rows_of_list {m : Monitor} {since : Option Int} {records : List CardStatus}
    (h : (m.list since).1 = .ok records) :
    ∃ db cards snapshots built, m.found? = some db ∧ db.cards = some cards ∧
      db.snapshots = some snapshots ∧ built.Perm records ∧
      List.Forall₂ (fun row s => row.check = .ok s)
        (selectedRows cards.rows snapshots.rows since) built := by
  obtain ⟨db, rows, sorted, hdb, hrows, hsorted, rfl⟩ := (list_eq_ok_iff m since records).mp h
  obtain ⟨cards, snapshots, hcards, hsnapshots, -, rfl⟩ :=
    (statusRows_eq_ok_iff db since rows).mp hrows
  obtain ⟨built, hbuilt, hperm⟩ := List.perm_comp_forall₂ (List.mergeSort_perm _ _).symm
    ((checkRows_eq_ok_iff _ _).mp hsorted)
  exact ⟨db, cards, snapshots, built, hdb, hcards, hsnapshots,
    hperm.trans (settle_perm sorted).symm, hbuilt⟩

/-- **What a bounded list holds**.  Its records are made from the selected rows, and of the rows
that are selected without the bound these are the ones whose stored time is no number or is reported
as not less than the bound.  If all times are stored as numbers, no record is older than the
bound. -/
theorem list_bounded (m : Monitor) (n : Int) (records : List CardStatus)
    (h : (m.list (some n)).1 = .ok records) :
    ∃ db cards snapshots built, m.found? = some db ∧ db.cards = some cards ∧
      db.snapshots = some snapshots ∧ built.Perm records ∧
      List.Forall₂ (fun row s => row.check = .ok s)
        (selectedRows cards.rows snapshots.rows (some n)) built ∧
      (∀ row ∈ selectedRows cards.rows snapshots.rows none, ∀ s, row.check = .ok s →
        (row ∈ selectedRows cards.rows snapshots.rows (some n) ↔
          ((row.snapshot .lastUpdated).isNumber = true → n ≤ s.lastUpdated))) ∧
      ((∀ row ∈ snapshots.rows, (row .lastUpdated).isNumber = true) →
        ∀ s ∈ records, n ≤ s.lastUpdated) := by
  obtain ⟨db, cards, snapshots, built, hdb, hcards, hsnapshots, hperm, hbuilt⟩ :=
    exists_rows_of_list h
  refine ⟨db, cards, snapshots, built, hdb, hcards, hsnapshots, hperm, hbuilt,
    fun row hrow s hs => ?_, fun hnumber s hs => ?_⟩
  · obtain ⟨hcard, hsnapshot, hselected⟩ := mem_selectedRows.mp hrow
    rw [mem_selectedRows, selected_some_iff hs]
    simp [hcard, hsnapshot, hselected]
  · -- Each record was made from a selected row.
    obtain ⟨row, hrow, hcheck⟩ : ∃ row ∈ selectedRows cards.rows snapshots.rows (some n),
        row.check = .ok s := by
      obtain ⟨i, hi, rfl⟩ := List.getElem_of_mem (hperm.mem_iff.mpr hs)
      have hlength := hbuilt.length_eq
      exact ⟨_, List.getElem_mem (hlength ▸ hi), (List.forall₂_iff_get.mp hbuilt).2 i _ hi⟩
    obtain ⟨-, hsnapshot, hselected⟩ := mem_selectedRows.mp hrow
    exact ((selected_some_iff hcheck n).mp hselected).2 (hnumber _ hsnapshot)

theorem list_bounded_small :
    ∃ records, ((small (-1)).list (some 96)).1 = .ok records ∧ records ≠ [] ∧
      ∀ s ∈ records, 96 ≤ s.lastUpdated := by
  obtain ⟨db, hdb, hholds⟩ := exists_small_holds
  have hfits : boundFits (some 96) = true := by decide
  have hlist := list_eq_listing hdb hholds hfits
  obtain ⟨found, cards, snapshots, -, hfound, -, hsnapshots, -, -, -, hle⟩ :=
    list_bounded (small (-1)) 96 _ hlist
  obtain rfl : db = found := Option.some.inj (hdb.symm.trans hfound)
  refine ⟨_, hlist, fun hempty => ?_, hle fun row => hholds.isNumber_lastUpdated hsnapshots⟩
  -- One of the active snapshots is not older than the bound.
  have hreported : (reported smallCards smallSnapshots (some 96)).length = 1 := by decide
  have hlength := (listing_perm smallCards smallSnapshots (some 96)).length_eq
  rw [hempty, List.length_map, hreported] at hlength
  cases hlength

/-- A service with one card and one active snapshot, whose time is stored as these bytes. -/
def timedByBytes (time : Bytes) : Monitor :=
  (smallStart.run
    [.createTables true,
     .load .records [[("id", .int 1), ("name", .text "A"), ("size", .int 8)]]
       [[("id", .int 1), ("last_updated", .bytes .fixed time), ("is_active", .bool true)]]]).2

/-- A bounded list may hold older records: the bytes `100` are stored as they are, meet the bound
`200`, and are reported as the integer `100`. -/
theorem not_forall_le_lastUpdated :
    ¬ ∀ (m : Monitor) (n : Int) (records : List CardStatus), m.Reached →
      -2 ^ 63 ≤ n ∧ n < 2 ^ 63 → (m.list (some n)).1 = .ok records →
      ∀ s ∈ records, n ≤ s.lastUpdated := by
  intro h
  have hreached : (timedByBytes [49, 48, 48]).Reached :=
    ⟨smallStart, _, by simp [smallStart, start], by simp, rfl⟩
  have htimes : ((timedByBytes [49, 48, 48]).list (some 200)).1.toOption.map
      (·.map (·.lastUpdated)) = some [100] := by
    decide +kernel
  cases hlist : ((timedByBytes [49, 48, 48]).list (some 200)).1 with
  | error f =>
    rw [hlist] at htimes
    cases htimes
  | ok records =>
    rw [hlist] at htimes
    obtain ⟨s, rfl⟩ : ∃ s, records = [s] :=
      List.length_eq_one_iff.mp (by simpa using congrArg List.length (Option.some.inj htimes))
    have hle := h _ 200 [s] hreached (by decide) hlist s (List.mem_singleton_self s)
    have htime : s.lastUpdated = 100 := by simpa [Except.toOption] using htimes
    omega

end Monitor

end CardHealth
