import CardHealth.Proofs.Store.Integrity
import CardHealth.Proofs.Store.StatusQuery
import Mathlib.Data.Multiset.Bind
import Mathlib.Tactic.MkIffOfInductiveProp

/-!
# Contents of a store

A store is *well typed* if its rows hold what the columns were declared for: `Database.Holds` says
which cards and snapshots these are.

* `coe_reported`: the pairs that are reported are those of the product that `IsReported` describes.
* `nodup_reported_id`: a card is reported once if it has one active snapshot.
* `Database.Holds.exists_statusRows`: the status query finds the rows of these pairs, and every row
  is a record.
-/

namespace CardHealth.Store

/-! ### Cards and snapshots -/

/-- What is reported of a registered card. -/
structure Card where
  id : Int
  name : String
  size : Int

/-- A health snapshot of a card. -/
structure Snapshot where
  id : Int
  lastUpdated : Int
  sectorMap : Option Bytes
  curRoundNum : Int
  roundNumOffset : Int
  numBadSectors : Int
  status : Int
  rate : Binary64
  isActive : Bool
  /-- The two parts of the round number have a sum of 64 bits. -/
  fits_round : fitsWord (curRoundNum + roundNumOffset) = true

/-- The cells of a card. -/
@[mk_iff]
structure Card.IsRow (card : Card) (row : Row CardColumn) : Prop where
  id : row .id = .int card.id
  name : row .name = .text card.name
  size : row .size = .int card.size

/-- The cells of a snapshot. -/
@[mk_iff]
structure Snapshot.IsRow (snapshot : Snapshot) (row : Row SnapshotColumn) : Prop where
  id : row .id = .int snapshot.id
  lastUpdated : row .lastUpdated = .int snapshot.lastUpdated
  sectorMap : row .sectorMap = snapshot.sectorMap.elim .null .blob
  curRoundNum : row .curRoundNum = .int snapshot.curRoundNum
  roundNumOffset : row .roundNumOffset = .int snapshot.roundNumOffset
  numBadSectors : row .numBadSectors = .int snapshot.numBadSectors
  status : row .status = .int snapshot.status
  rate : row .rate = .real snapshot.rate
  isActive : row .isActive = .int (if snapshot.isActive then 1 else 0)

instance (card : Card) (row : Row CardColumn) : Decidable (card.IsRow row) :=
  decidable_of_iff' _ (Card.isRow_iff card row)

instance (snapshot : Snapshot) (row : Row SnapshotColumn) : Decidable (snapshot.IsRow row) :=
  decidable_of_iff' _ (Snapshot.isRow_iff snapshot row)

/-- The tables of a store hold these cards and snapshots, in this order, and nothing else. -/
def Database.Holds (db : Database) (cards : List Card) (snapshots : List Snapshot) : Prop :=
  match db with
  | ⟨some cardTable, some snapshotTable⟩ =>
    List.Forall₂ Card.IsRow cards cardTable.rows ∧
      List.Forall₂ Snapshot.IsRow snapshots snapshotTable.rows
  | _ => False

instance (db : Database) (cards : List Card) (snapshots : List Snapshot) :
    Decidable (db.Holds cards snapshots) :=
  match db with
  | ⟨some _, some _⟩ => inferInstanceAs (Decidable (_ ∧ _))
  | ⟨some _, none⟩ => .isFalse id
  | ⟨none, _⟩ => .isFalse id

theorem Database.Holds.exists_tables {db : Database} {cards : List Card}
    {snapshots : List Snapshot} (h : db.Holds cards snapshots) :
    ∃ cardTable snapshotTable, db.cards = some cardTable ∧ db.snapshots = some snapshotTable ∧
      List.Forall₂ Card.IsRow cards cardTable.rows ∧
      List.Forall₂ Snapshot.IsRow snapshots snapshotTable.rows := by
  match db, h with
  | ⟨some cardTable, some snapshotTable⟩, ⟨hcards, hsnapshots⟩ =>
    exact ⟨cardTable, snapshotTable, rfl, rfl, hcards, hsnapshots⟩

/-- Every stored snapshot row holds one of the snapshots. -/
theorem Database.Holds.exists_isRow {db : Database} {cards : List Card}
    {snapshots : List Snapshot} {table : Table SnapshotColumn} (h : db.Holds cards snapshots)
    (htable : db.snapshots = some table) {row : Row SnapshotColumn} (hrow : row ∈ table.rows) :
    ∃ snapshot ∈ snapshots, snapshot.IsRow row := by
  obtain ⟨cardTable, found, -, hfound, -, hrows⟩ := h.exists_tables
  obtain rfl : found = table := Option.some.inj (hfound.symm.trans htable)
  exact exists_mem_of_forall₂ hrows hrow

/-! ### Reported pairs -/

/-- Whether a card is reported with a snapshot: it is one of its own, it is active, and it is not
older than the bound. -/
def IsReported (since : Option Int) (pair : Card × Snapshot) : Prop :=
  pair.1.id = pair.2.id ∧ pair.2.isActive = true ∧ ∀ n ∈ since, n ≤ pair.2.lastUpdated

instance (since : Option Int) : DecidablePred (IsReported since) :=
  fun pair => inferInstanceAs (Decidable (pair.1.id = pair.2.id ∧ pair.2.isActive = true ∧
    ∀ n ∈ since, n ≤ pair.2.lastUpdated))

/-- The record about a card with one of its snapshots. -/
def recordOf (pair : Card × Snapshot) : CardStatus where
  id := pair.1.id
  name := pair.1.name
  data := (pair.2.sectorMap.map Base64.encode).getD ""
  lastUpdated := pair.2.lastUpdated
  size := pair.1.size
  status := pair.2.status
  rate := pair.2.rate
  numBadSectors := pair.2.numBadSectors
  curRoundNum := pair.2.curRoundNum + pair.2.roundNumOffset

/-- The pairs that are reported, one list of cards for each snapshot. -/
def reported (cards : List Card) (snapshots : List Snapshot) (since : Option Int) :
    List (Card × Snapshot) :=
  snapshots.flatMap fun snapshot =>
    (cards.map fun card => (card, snapshot)).filter (IsReported since ·)

/-- The reported pairs are those of the product that have to be. -/
theorem coe_reported (cards : List Card) (snapshots : List Snapshot) (since : Option Int) :
    (reported cards snapshots since : Multiset (Card × Snapshot)) =
      ((cards : Multiset Card) ×ˢ (snapshots : Multiset Snapshot)).filter (IsReported since) := by
  have hproduct : (cards : Multiset Card) ×ˢ (snapshots : Multiset Snapshot) =
      ↑(snapshots.flatMap fun snapshot => cards.map fun card => (card, snapshot)) := by
    rw [← Multiset.map_swap_product, Multiset.coe_product, Multiset.map_coe]
    refine congrArg _ ?_
    show (snapshots.flatMap fun snapshot => cards.map (Prod.mk snapshot)).map Prod.swap = _
    rw [List.map_flatMap]
    simp [Function.comp_def]
  rw [hproduct, Multiset.filter_coe, List.filter_flatMap]
  rfl

/-- A bound takes away the pairs that are older than it. -/
theorem reported_some (cards : List Card) (snapshots : List Snapshot) (n : Int) :
    reported cards snapshots (some n) =
      (reported cards snapshots none).filter fun pair => n ≤ pair.2.lastUpdated := by
  unfold reported
  rw [List.filter_flatMap]
  refine congrArg (List.flatMap · snapshots) (funext fun snapshot => ?_)
  rw [List.filter_filter]
  refine List.filter_congr fun pair _ => ?_
  rw [Bool.eq_iff_iff]
  simp only [IsReported, Bool.and_eq_true, decide_eq_true_eq, Option.mem_def, Option.some.injEq,
    forall_eq', reduceCtorEq, false_implies, implies_true, and_true]
  tauto

/-- **A card is reported once** if no two cards, and no two active snapshots, have one id. -/
theorem nodup_reported_id {cards : List Card} {snapshots : List Snapshot}
    (hcards : (cards.map (·.id)).Nodup)
    (hactive : ((snapshots.filter (·.isActive)).map (·.id)).Nodup) (since : Option Int) :
    ((reported cards snapshots since).map (·.1.id)).Nodup := by
  rw [List.Nodup, List.pairwise_map, List.pairwise_filter] at hactive
  rw [reported, List.map_flatMap, List.nodup_flatMap]
  constructor
  · intro snapshot _
    refine List.Nodup.sublist (List.filter_sublist.map _) ?_
    rw [List.map_map]
    exact hcards
  · refine hactive.imp fun {s t} hne => ?_
    -- An id of either list is the id of its snapshot, which is active.
    have hid : ∀ snapshot n, n ∈ ((cards.map fun card => (card, snapshot)).filter
        (IsReported since ·)).map (·.1.id) → snapshot.isActive = true ∧ snapshot.id = n := by
      intro snapshot n hn
      obtain ⟨pair, hpair, rfl⟩ := List.mem_map.mp hn
      obtain ⟨hmem, hreported⟩ := List.mem_filter.mp hpair
      obtain ⟨card, -, rfl⟩ := List.mem_map.mp hmem
      obtain ⟨heq, hon, -⟩ := of_decide_eq_true hreported
      exact ⟨hon, heq.symm⟩
    intro n hs ht
    obtain ⟨hsActive, hsId⟩ := hid s n hs
    obtain ⟨htActive, htId⟩ := hid t n ht
    exact hne hsActive htActive (hsId.trans htId.symm)

/-! ### Pairs as rows -/

/-- The cells of a card with one of its snapshots. -/
def IsPair (pair : Card × Snapshot) (row : StatusRow) : Prop :=
  pair.1.IsRow row.card ∧ pair.2.IsRow row.snapshot

variable {pair : Card × Snapshot} {row : StatusRow}

theorem equals_int (a b : Int) : (Cell.int a).equals (.int b) = decide (a = b) := by
  rw [Bool.eq_iff_iff, decide_eq_true_iff]
  simp [Cell.equals, Cell.order]

theorem atLeast_int (a b : Int) : (Cell.int a).atLeast (.int b) = decide (b ≤ a) := by
  rw [Bool.eq_iff_iff, decide_eq_true_iff]
  simp [Cell.atLeast, Cell.order, ← Ordering.ne_lt_iff_isGE, compare_lt_iff_lt]

/-- The query selects the rows of the pairs that are to be reported. -/
theorem selected_eq (h : IsPair pair row) (since : Option Int) :
    row.selected since = decide (IsReported since pair) := by
  obtain ⟨hcard, hsnapshot⟩ := h
  have hid : (row.snapshot .id).equals (row.card .id) = decide (pair.1.id = pair.2.id) := by
    rw [hsnapshot.id, hcard.id, equals_int]
    exact decide_eq_decide.mpr eq_comm
  have hactive : (row.snapshot .isActive).equals (.int 1) = pair.2.isActive := by
    rw [hsnapshot.isActive, equals_int]
    cases pair.2.isActive <;> rfl
  unfold StatusRow.selected IsReported
  rw [hid, hactive, hsnapshot.lastUpdated, Bool.eq_iff_iff]
  cases since <;> simp [atLeast_int, and_assoc]

/-- The selected rows are those of the reported pairs, in the same order. -/
theorem forall₂_reported {cards : List Card} {snapshots : List Snapshot}
    {cardRows : List (Row CardColumn)} {snapshotRows : List (Row SnapshotColumn)}
    (hcards : List.Forall₂ Card.IsRow cards cardRows)
    (hsnapshots : List.Forall₂ Snapshot.IsRow snapshots snapshotRows) (since : Option Int) :
    List.Forall₂ IsPair (reported cards snapshots since)
      (selectedRows cardRows snapshotRows since) := by
  refine List.rel_flatMap hsnapshots fun snapshot row hsnapshot => ?_
  refine List.rel_filter (fun {pair row} hpair => ?_)
    (List.rel_map (fun card row hcard => ⟨hcard, hsnapshot⟩) hcards)
  simp only [selected_eq hpair]

/-- The row of a pair makes the record about it. -/
theorem check_of_isPair (h : IsPair pair row) : row.check = .ok (recordOf pair) := by
  obtain ⟨hcard, hsnapshot⟩ := h
  have hround : (Cell.int pair.2.curRoundNum).add (.int pair.2.roundNumOffset) =
      .int (pair.2.curRoundNum + pair.2.roundNumOffset) := if_pos pair.2.fits_round
  rw [StatusRow.check_eq_ok_iff, hcard.id, hcard.name, hcard.size, hsnapshot.sectorMap,
    hsnapshot.lastUpdated, hsnapshot.status, hsnapshot.rate, hsnapshot.numBadSectors,
    hsnapshot.curRoundNum, hsnapshot.roundNumOffset, hround]
  refine ⟨rfl, rfl, ?_, rfl, rfl, rfl, rfl, rfl, rfl⟩
  cases hmap : pair.2.sectorMap <;> simp [recordOf, hmap] <;> rfl

theorem nameLe_eq {other : Card × Snapshot} {otherRow : StatusRow} (h : IsPair pair row)
    (hother : IsPair other otherRow) :
    decide (pair.1.name ≤ other.1.name) = row.nameLe otherRow := by
  unfold StatusRow.nameLe
  rw [h.1.name, hother.1.name, Bool.eq_iff_iff, decide_eq_true_iff, Ordering.isLE_iff_ne_gt]
  exact compare_le_iff_le.symm

/-! ### The list of records -/

/-- Sorting keeps related lists related if the orders agree. -/
theorem forall₂_mergeSort {α β : Type} {r : α → β → Prop} {le : α → α → Bool}
    {le' : β → β → Bool} (hle : ∀ a b a' b', r a a' → r b b' → le a b = le' a' b') {l : List α}
    {l' : List β} (h : List.Forall₂ r l l') :
    List.Forall₂ r (l.mergeSort le) (l'.mergeSort le') := by
  -- Both sorted lists are read off one sorted list of related pairs.
  have hrel : ∀ p ∈ l.zip l', r p.1 p.2 := fun p hp => List.forall₂_zip h hp
  have hleft : ((l.zip l').mergeSort fun p q => le p.1 q.1).map Prod.fst = l.mergeSort le := by
    rw [List.map_mergeSort (s := le) fun _ _ _ _ => rfl, List.map_fst_zip h.length_eq.le]
  have hright : ((l.zip l').mergeSort fun p q => le p.1 q.1).map Prod.snd =
      l'.mergeSort le' := by
    rw [List.map_mergeSort (s := le') fun p hp q hq => hle _ _ _ _ (hrel p hp) (hrel q hq),
      List.map_snd_zip h.length_eq.ge]
  rw [← hleft, ← hright, List.forall₂_map_left_iff, List.forall₂_map_right_iff, List.forall₂_same]
  exact fun p hp => hrel p (List.mem_mergeSort.mp hp)

/-- The list of the records about the reported pairs, ordered by name. -/
def listing (cards : List Card) (snapshots : List Snapshot) (since : Option Int) :
    List CardStatus :=
  settle (((reported cards snapshots since).mergeSort fun pair other =>
    decide (pair.1.name ≤ other.1.name)).map recordOf)

/-- Every reported pair has one record. -/
theorem listing_perm (cards : List Card) (snapshots : List Snapshot) (since : Option Int) :
    (listing cards snapshots since).Perm ((reported cards snapshots since).map recordOf) :=
  (settle_perm _).trans ((List.mergeSort_perm _ _).map recordOf)

/-- A bound takes the records away that are older than it, and no others. -/
theorem listing_some_perm (cards : List Card) (snapshots : List Snapshot) (n : Int) :
    (listing cards snapshots (some n)).Perm
      ((listing cards snapshots none).filter fun s => n ≤ s.lastUpdated) := by
  have hbounded := listing_perm cards snapshots (some n)
  have hfilter := (listing_perm cards snapshots none).filter fun s => n ≤ s.lastUpdated
  rw [reported_some] at hbounded
  rw [List.filter_map] at hfilter
  exact hbounded.trans hfilter.symm

/-- **The names in the list never decrease**. -/
theorem pairwise_name_listing (cards : List Card) (snapshots : List Snapshot)
    (since : Option Int) :
    (listing cards snapshots since).Pairwise fun s t => s.name ≤ t.name := by
  suffices h : ((listing cards snapshots since).map (·.name)).Pairwise (· ≤ ·) from
    List.pairwise_map.mp h
  rw [listing, map_name_settle, List.map_map, List.pairwise_map]
  refine (List.pairwise_mergeSort ?_ ?_ (reported cards snapshots since)).imp of_decide_eq_true
  · intro a b c hab hbc
    rw [decide_eq_true_eq] at *
    exact hab.trans hbc
  · intro a b
    rw [Bool.or_eq_true, decide_eq_true_eq, decide_eq_true_eq]
    exact le_total _ _

/-- **The status query on a well-typed store**: every row that it finds is a record, and together
they are the records about the reported pairs. -/
theorem Database.Holds.exists_statusRows {db : Database} {cards : List Card}
    {snapshots : List Snapshot} (h : db.Holds cards snapshots) {since : Option Int}
    (hfits : boundFits since = true) :
    ∃ rows records, db.statusRows since = .ok rows ∧ checkRows rows = .ok records ∧
      settle records = listing cards snapshots since := by
  obtain ⟨cardTable, snapshotTable, hcards, hsnapshots, hcardRows, hsnapshotRows⟩ :=
    h.exists_tables
  have hsorted := forall₂_mergeSort (r := IsPair) (fun _ _ _ _ => nameLe_eq)
    (forall₂_reported hcardRows hsnapshotRows since)
  have hrows := statusRows_of_some since hcards hsnapshots
  rw [if_pos hfits] at hrows
  refine ⟨_, _, hrows, ?_, rfl⟩
  rw [checkRows_eq_ok_iff, List.forall₂_map_right_iff]
  exact (hsorted.imp fun _ _ => check_of_isPair).flip

/-- The cards of an intact store have different ids. -/
theorem Database.Holds.nodup_card_id {db : Database} {cards : List Card}
    {snapshots : List Snapshot} (h : db.Holds cards snapshots) (hdb : db.Intact) :
    (cards.map (·.id)).Nodup := by
  obtain ⟨cardTable, snapshotTable, hcards, -, hrows, -⟩ := h.exists_tables
  have hids : cardTable.rows.map (· .id) = cards.map fun card => Cell.int card.id := by
    rw [← List.forall₂_eq_eq_eq, List.forall₂_map_left_iff, List.forall₂_map_right_iff]
    exact (hrows.imp fun _ _ hrow => hrow.id).flip
  have hkeys : (cardTable.rows.map (· .id)).Pairwise fun a b => a.equals b = false := by
    rw [List.pairwise_map]
    exact (hdb.cards cardTable hcards).pairwise_key.imp fun {a b} h => by
      simpa [Schema.sameKey, cardSchema] using h
  rw [hids, List.pairwise_map] at hkeys
  rw [List.Nodup, List.pairwise_map]
  exact hkeys.imp fun h => by simpa [equals_int] using h

end CardHealth.Store
