import CardHealth.Proofs.Outcome
import CardHealth.Proofs.Store.StatusRow
import Mathlib.Data.List.Perm.Basic
import Mathlib.Data.List.SplitBy
import Mathlib.Data.String.Basic

/-!
# Results of the status query

* `statusRows_eq_ok_iff`: the query returns the selected pairs in the order of the names, unless a
  table is missing or the bound cannot be passed to the store.
* `checkRows_eq_ok_iff`: the records of rows are there exactly if each row is a record.
* `settle_perm`, `map_name_settle`: settling moves records about, but only among records of one
  name.
-/

namespace CardHealth.Store

/-! ### Selected rows -/

theorem mem_selectedRows {cards : List (Row CardColumn)} {snapshots : List (Row SnapshotColumn)}
    {since : Option Int} {row : StatusRow} :
    row ∈ selectedRows cards snapshots since ↔
      row.card ∈ cards ∧ row.snapshot ∈ snapshots ∧ row.selected since = true := by
  unfold selectedRows
  simp only [List.mem_flatMap, List.mem_filter, List.mem_map]
  constructor
  · rintro ⟨snapshot, hs, ⟨card, hc, rfl⟩, hsel⟩
    exact ⟨hc, hs, hsel⟩
  · rintro ⟨hc, hs, hsel⟩
    exact ⟨row.snapshot, hs, ⟨row.card, hc, rfl⟩, hsel⟩

theorem boundFits_iff (since : Option Int) :
    boundFits since = true ↔ ∀ n ∈ since, -2 ^ 63 ≤ n ∧ n < 2 ^ 63 := by
  unfold boundFits
  cases since <;> simp [fitsWord_iff]

theorem statusRows_of_some {db : Database} {cards : Table CardColumn}
    {snapshots : Table SnapshotColumn} (since : Option Int) (hc : db.cards = some cards)
    (hs : db.snapshots = some snapshots) :
    db.statusRows since =
      if boundFits since then
        .ok ((selectedRows cards.rows snapshots.rows since).mergeSort StatusRow.nameLe)
      else .error .oversizedInteger := by
  unfold Database.statusRows
  rw [hc, hs]
  rfl

theorem statusRows_eq_ok_iff (db : Database) (since : Option Int) (rows : List StatusRow) :
    db.statusRows since = .ok rows ↔
      ∃ cards snapshots, db.cards = some cards ∧ db.snapshots = some snapshots ∧
        boundFits since = true ∧
        rows = (selectedRows cards.rows snapshots.rows since).mergeSort StatusRow.nameLe := by
  constructor
  · intro h
    cases hc : db.cards with
    | none =>
      rw [Database.statusRows, hc] at h
      cases h
    | some cards =>
      cases hs : db.snapshots with
      | none =>
        rw [Database.statusRows, hc, hs] at h
        cases h
      | some snapshots =>
        rw [statusRows_of_some since hc hs] at h
        split_ifs at h with hb
        exact ⟨cards, snapshots, rfl, rfl, hb, (Except.ok.inj h).symm⟩
  · rintro ⟨cards, snapshots, hc, hs, hb, rfl⟩
    rw [statusRows_of_some since hc hs, if_pos hb]

/-! ### Records of rows -/

theorem checkRows_eq_ok_iff (rows : List StatusRow) (records : List CardStatus) :
    checkRows rows = .ok records ↔
      List.Forall₂ (fun row s => row.check = .ok s) rows records :=
  mapM_eq_ok_iff

/-- One refused row is enough. -/
theorem exists_checkRows_eq_error {rows : List StatusRow} {row : StatusRow} (hmem : row ∈ rows)
    (hrow : ∀ s, row.check ≠ .ok s) : ∃ refusal, checkRows rows = .error refusal := by
  cases h : checkRows rows with
  | error refusal => exact ⟨refusal, rfl⟩
  | ok records =>
    obtain ⟨s, -, hs⟩ := exists_mem_of_forall₂ ((checkRows_eq_ok_iff rows records).mp h).flip hmem
    exact absurd hs (hrow s)

/-! ### Settling -/

theorem settle_perm (records : List CardStatus) : (settle records).Perm records := by
  unfold settle
  conv_rhs => rw [← List.flatten_splitBy (fun a b : CardStatus => a.name == b.name) records]
  rw [← List.flatMap_id]
  exact List.Perm.flatMap_left _ fun run _ => List.mergeSort_perm run _

/-- All records of a run have one name. -/
theorem exists_map_name_eq_replicate {run : List CardStatus}
    (h : run.IsChain fun a b => (a.name == b.name) = true) :
    ∃ name, run.map (·.name) = List.replicate run.length name := by
  cases run with
  | nil => exact ⟨"", rfl⟩
  | cons a run =>
    refine ⟨a.name, List.eq_replicate_iff.mpr ⟨List.length_map _, ?_⟩⟩
    have htrans : IsTrans CardStatus fun a b => (a.name == b.name) = true :=
      ⟨fun x y z hxy hyz => by rw [beq_iff_eq] at *; exact hxy.trans hyz⟩
    have hall := (List.pairwise_cons.mp h.pairwise).1
    intro name hname
    obtain ⟨b, hb, rfl⟩ := List.mem_map.mp hname
    rcases List.mem_cons.mp hb with rfl | hb
    · rfl
    · exact (beq_iff_eq.mp (hall b hb)).symm

/-- **Settling keeps the names in their places**. -/
theorem map_name_settle (records : List CardStatus) :
    (settle records).map (·.name) = records.map (·.name) := by
  unfold settle
  conv_rhs => rw [← List.flatten_splitBy (fun a b : CardStatus => a.name == b.name) records]
  rw [List.map_flatMap, ← List.flatMap_id, List.map_flatMap]
  refine List.flatMap_congr fun run hrun => ?_
  obtain ⟨name, hname⟩ := exists_map_name_eq_replicate (List.isChain_of_mem_splitBy hrun)
  have hperm := (List.mergeSort_perm run fun a b => decide (a.render ≤ b.render)).map (·.name)
  rw [hname] at hperm
  rw [List.perm_replicate.mp hperm, id, hname]

end CardHealth.Store
