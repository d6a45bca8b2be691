import CardHealth.Proofs.Store.Contents
import CardHealth.Proofs.Value.Integer

/-!
# Bounds on stored times

The query compares a bound with the stored value, and a record reports what its check makes of that
value.  On numbers the two agree, whole doubles included (`atLeast_int_iff_of_number`).  Texts and
byte strings are ordered above all numbers, so that they meet every bound, also where the check
reads a small integer from them (`atLeast_int_of_not_number`).  `selected_some_iff` says it of rows.
-/

namespace CardHealth.Store

open Binary64

/-- Whether a stored value is a number. -/
def Cell.isNumber : Cell → Bool
  | .int _ | .real _ => true
  | _ => false

/-! ### Whole doubles -/

/-- A whole double is at least an integer exactly if the integer that it is equal to is. -/
theorem isGE_compareInt_iff {x : Binary64} {k : Int} (h : x.toInt? = some k) (n : Int) :
    (x.compareInt n).isGE = true ↔ n ≤ k := by
  have hone : (0 : Int) < one := by exact_mod_cast one_pos
  cases x with
  | finite negative units =>
    rw [compareInt, signedUnits_eq_mul_one h, ← Ordering.ne_lt_iff_isGE, compare_lt_iff_lt,
      Int.mul_lt_mul_right hone, not_lt]
  | infinity negative => cases h
  | nan => cases h

/-! ### Cells -/

variable {c : Cell} {k : Int}

/-- A number meets a bound exactly if the integer reported for it does. -/
theorem atLeast_int_iff_of_number (hc : c.isNumber = true) (h : c.toValue.toInt = .ok k)
    (n : Int) : c.atLeast (.int n) = true ↔ n ≤ k := by
  cases c with
  | int a =>
    obtain rfl := Except.ok.inj h
    rw [atLeast_int, decide_eq_true_iff]
  | real x =>
    have horder : (Cell.real x).atLeast (.int n) = (x.compareInt n).isGE := rfl
    rw [horder, isGE_compareInt_iff (Value.intOfFloat_eq_ok_iff.mp h).1]
  | null => cases hc
  | text s => cases hc
  | blob b => cases hc

/-- A text or a byte string meets every bound. -/
theorem atLeast_int_of_not_number (hc : c.isNumber = false) (h : c.toValue.toInt = .ok k)
    (n : Int) : c.atLeast (.int n) = true := by
  cases c with
  | null => cases h
  | int a => cases hc
  | real x => cases hc
  | text s => rfl
  | blob b => rfl

/-! ### Rows -/

/-- **What a bound takes away**: of the rows that make records, those whose stored time is a number
and is reported as less than the bound. -/
theorem selected_some_iff {row : StatusRow} {s : CardStatus} (hs : row.check = .ok s) (n : Int) :
    row.selected (some n) = true ↔
      row.selected none = true ∧
        ((row.snapshot .lastUpdated).isNumber = true → n ≤ s.lastUpdated) := by
  obtain ⟨-, -, -, hupdated, -⟩ := (StatusRow.check_eq_ok_iff row s).mp hs
  have hbound : (row.snapshot .lastUpdated).atLeast (.int n) = true ↔
      ((row.snapshot .lastUpdated).isNumber = true → n ≤ s.lastUpdated) := by
    cases hnumber : (row.snapshot .lastUpdated).isNumber with
    | true => simp [atLeast_int_iff_of_number hnumber hupdated]
    | false => simp [atLeast_int_of_not_number hnumber hupdated]
  rw [← hbound]
  simp [StatusRow.selected]

/-- The times of a well-typed store are numbers. -/
theorem Database.Holds.isNumber_lastUpdated {db : Database} {cards : List Card}
    {snapshots : List Snapshot} {table : Table SnapshotColumn} (h : db.Holds cards snapshots)
    (htable : db.snapshots = some table) {row : Row SnapshotColumn} (hrow : row ∈ table.rows) :
    (row .lastUpdated).isNumber = true := by
  obtain ⟨snapshot, -, hcells⟩ := h.exists_isRow htable hrow
  rw [hcells.lastUpdated]
  rfl

end CardHealth.Store
