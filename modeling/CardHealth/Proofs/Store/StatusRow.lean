import CardHealth.Proofs.Binary64.Rounding
import CardHealth.Proofs.CardStatus.Check
import CardHealth.Store.StatusQuery

/-!
# Status rows

What becomes of one card with one of its snapshots.  `check_eq_ok_iff` reads the fields of a record
off the cells of its row.  A sum of two stored integers that fits 64 bits is exact; one that does
not is a double of at least `2 ^ 63` in magnitude, which no integer field takes: `toInt_add_int`.
-/

namespace CardHealth.Store

open Binary64

/-! ### Integers of 64 bits -/

theorem fitsWord_iff (n : Int) : fitsWord n = true ↔ -2 ^ 63 ≤ n ∧ n < 2 ^ 63 := by
  unfold fitsWord Numeral.wordLimit
  simp only [Bool.and_eq_true, decide_eq_true_eq]
  norm_num

/-- A whole double outside the 64-bit range is no integer field. -/
theorem intOfFloat_finite_mul_one {k : Nat} (hk : 2 ^ 63 ≤ k) (negative : Bool) :
    Value.intOfFloat (.finite negative (k * one)) = .error .oversizedInteger := by
  have hout : ¬ (-Numeral.wordLimit < signedUnits negative k ∧
      signedUnits negative k < Numeral.wordLimit) := by
    unfold signedUnits Numeral.wordLimit
    split_ifs <;> omega
  unfold Value.intOfFloat
  simp only [isFinite, ↓reduceIte, toInt?_finite_mul_one, hout]

theorem realSum_finite (negative : Bool) (units : Nat) :
    realSum (.finite negative units) = .real (.finite negative units) := by
  simp [realSum]

/-- **The sum of two stored integers as an integer field**: exact, or refused. -/
theorem toInt_add_int {a b : Int} (ha : fitsWord a = true) (hb : fitsWord b = true) :
    ((Cell.int a).add (.int b)).toValue.toInt =
      if fitsWord (a + b) then .ok (a + b) else .error .oversizedInteger := by
  have hadd : (Cell.int a).add (.int b) =
      if fitsWord (a + b) then .int (a + b) else realSum (add (ofInt a) (ofInt b)) := rfl
  rw [hadd]
  split_ifs with hfits
  · rfl
  · -- The double that takes the place of the sum does not come back below `2 ^ 63`.
    rw [fitsWord_iff] at ha hb hfits
    obtain ⟨k, hk, hsum⟩ : ∃ k, 2 ^ 63 ≤ k ∧
        add (ofInt a) (ofInt b) = .finite (a < 0) (k * one) := by
      apply exists_add_ofInt_eq <;> omega
    rw [hsum, realSum_finite, Cell.toValue, Value.toInt]
    exact intOfFloat_finite_mul_one hk _

namespace StatusRow

/-! ### Fields -/

/-- **The fields of a record are read off the cells of its row**. -/
theorem check_eq_ok_iff (row : StatusRow) (s : CardStatus) :
    row.check = .ok s ↔
      (row.card .id).toValue.toInt = .ok s.id ∧
      (row.card .name).toValue.toText = .ok s.name ∧
      CardStatus.checkSectorMap (row.snapshot .sectorMap).toValue = .ok s.data ∧
      (row.snapshot .lastUpdated).toValue.toInt = .ok s.lastUpdated ∧
      (row.card .size).toValue.toInt = .ok s.size ∧
      (row.snapshot .status).toValue.toInt = .ok s.status ∧
      (row.snapshot .rate).toValue.toFloat = .ok s.rate ∧
      (row.snapshot .numBadSectors).toValue.toInt = .ok s.numBadSectors ∧
      ((row.snapshot .curRoundNum).add (row.snapshot .roundNumOffset)).toValue.toInt =
        .ok s.curRoundNum := by
  unfold check
  rw [CardStatus.check_object_eq_ok_iff, CardStatus.checkFields_eq_ok_iff]
  simp [requiredField, lastNamed?, fields]

/-! ### Round numbers -/

/-- The stored parts of the round number are these integers of 64 bits. -/
structure HasRound (row : StatusRow) (a b : Int) : Prop where
  curRoundNum : row.snapshot .curRoundNum = .int a
  roundNumOffset : row.snapshot .roundNumOffset = .int b
  fits_curRoundNum : -2 ^ 63 ≤ a ∧ a < 2 ^ 63
  fits_roundNumOffset : -2 ^ 63 ≤ b ∧ b < 2 ^ 63

variable {row : StatusRow} {a b : Int} {s : CardStatus}

theorem HasRound.toInt_eq_ok (h : row.HasRound a b) (hs : row.check = .ok s) :
    (if fitsWord (a + b) then .ok (a + b) else .error .oversizedInteger) =
      (.ok s.curRoundNum : Except Fault Int) := by
  obtain ⟨-, -, -, -, -, -, -, -, hround⟩ := (check_eq_ok_iff row s).mp hs
  rw [h.curRoundNum, h.roundNumOffset, toInt_add_int ((fitsWord_iff a).mpr h.fits_curRoundNum)
    ((fitsWord_iff b).mpr h.fits_roundNumOffset)] at hround
  exact hround

/-- The round number of a record is the sum of its stored parts. -/
theorem HasRound.curRoundNum_eq (h : row.HasRound a b) (hs : row.check = .ok s) :
    s.curRoundNum = a + b := by
  have hround := h.toInt_eq_ok hs
  split at hround
  · exact (Except.ok.inj hround).symm
  · cases hround

/-- A row whose round number leaves the 64-bit range is no record. -/
theorem HasRound.fits_add (h : row.HasRound a b) (hs : row.check = .ok s) :
    -2 ^ 63 ≤ a + b ∧ a + b < 2 ^ 63 := by
  have hround := h.toInt_eq_ok hs
  split at hround
  · rename_i hfits
    exact (fitsWord_iff _).mp hfits
  · cases hround

end StatusRow

end CardHealth.Store
