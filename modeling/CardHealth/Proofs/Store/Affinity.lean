import CardHealth.Proofs.Binary64.Shortest
import CardHealth.Store.Cell

/-!
# Stored values stay as they are

What a column has made of a value, it makes nothing else of again (`Affinity.apply_apply`): a text
that denotes a number is stored as that number, and an integer in a column of doubles as a double
that keeps its value (`ofInt_of_toInt?_ofInt`).
-/

namespace CardHealth

namespace Binary64

theorem roundUnits_of_spacing_dvd {units : Nat} (h : spacing units ∣ units) :
    roundUnits units 1 = units := by
  have hround : roundDiv units (spacing units) = units / spacing units := by
    simp [roundDiv, Nat.mod_eq_zero_of_dvd h, spacing_pos]
  rw [roundUnits_one_right, hround, Nat.div_mul_cancel h]

/-- A negative integer is not rounded to zero. -/
theorem pos_of_ofInt {n : Int} {units : Nat} (h : ofInt n = .finite true units) : 0 < units := by
  unfold ofInt ofRatio ofUnits at h
  split at h
  · obtain ⟨hneg, rfl⟩ := finite.inj h
    have hn : n < 0 := by simpa using hneg
    exact two_pow_le_roundUnits (k := 0) (Nat.mul_pos (by omega) one_pos)
  · cases h

theorem exists_of_toInt? {negative : Bool} {units : Nat} {k : Int}
    (h : (finite negative units).toInt? = some k) :
    ∃ n, units = n * one ∧ k = signedUnits negative n := by
  simp only [toInt?, beq_iff_eq, Option.ite_none_right_eq_some, Option.some.injEq] at h
  obtain ⟨hwhole, rfl⟩ := h
  exact ⟨units / one, (Nat.div_mul_cancel (Nat.dvd_of_mod_eq_zero hwhole)).symm, rfl⟩

/-- **An integer that is rounded to a whole double is rounded to it again**. -/
theorem ofInt_of_toInt?_ofInt {n k : Int} (h : (ofInt n).toInt? = some k) : ofInt k = ofInt n := by
  have hdouble := isDouble_ofInt n
  generalize hn : ofInt n = x at h hdouble
  cases x with
  | nan => cases h
  | infinity negative => cases h
  | finite negative units =>
    obtain ⟨m, hunits, rfl⟩ := exists_of_toInt? h
    cases hdouble with
    | finite _ hdvd hlt =>
      have hsign : decide (signedUnits negative m < 0) = negative := by
        cases negative with
        | false => simp [signedUnits]
        | true =>
          have hpos := pos_of_ofInt hn
          rw [hunits] at hpos
          simp [signedUnits, Nat.pos_of_mul_pos_right hpos]
      unfold ofInt ofRatio ofUnits
      rw [natAbs_signedUnits, ← hunits, roundUnits_of_spacing_dvd hdvd, if_pos hlt, hsign]

end Binary64

namespace Store

@[simp] theorem apply_null (a : Affinity) : a.apply .null = .null := by
  cases a <;> rfl

/-! ### Numbers -/

theorem toNumeric_ofDouble (x : Binary64) : toNumeric (ofDouble x) = ofDouble x := by
  unfold ofDouble
  split
  · rename_i hx
    split
    · rfl
    · rename_i hout
      simp [toNumeric, ofDouble, hx, hout]
  · rename_i hx
    simp [toNumeric, ofDouble, hx]

/-- The number in a numeric text is an integer or a double. -/
theorem numericText?_cases {s : String} {cell : Cell} (h : numericText? s = some cell) :
    (∃ n, cell = .int n) ∨ ∃ x, cell = .real x := by
  simp only [numericText?, Option.ite_none_right_eq_some, Option.some.injEq] at h
  obtain ⟨-, rfl⟩ := h
  unfold NumericHead.toCell
  dsimp only
  split
  · exact .inl ⟨_, rfl⟩
  · exact .inr ⟨_, rfl⟩

theorem toNumeric_toNumeric (cell : Cell) : toNumeric (toNumeric cell) = toNumeric cell := by
  cases cell with
  | real x => exact toNumeric_ofDouble x
  | text s =>
    cases hs : numericText? s with
    | none => simp [toNumeric, hs]
    | some number =>
      obtain ⟨n, rfl⟩ | ⟨x, rfl⟩ := numericText?_cases hs
      · simp [toNumeric, hs]
      · have htext : toNumeric (.text s) = ofDouble x := by simp [toNumeric, hs]
        rw [htext, toNumeric_ofDouble]
  | _ => rfl

/-! ### Columns -/

theorem ofDouble_cases (x : Binary64) :
    ofDouble x = .real x ∨ ∃ n, x.toInt? = some n ∧ ofDouble x = .int n := by
  unfold ofDouble
  split
  · rename_i n hx
    split
    · exact .inr ⟨n, hx, rfl⟩
    · exact .inl rfl
  · exact .inl rfl

theorem apply_real_of_whole {x : Binary64} (hx : ∀ n, x.toInt? = some n → Binary64.ofInt n = x) :
    Affinity.real.apply (.real x) = .real x := by
  rcases ofDouble_cases x with h | ⟨n, hn, h⟩
  · simp [Affinity.apply, toNumeric, h]
  · simp [Affinity.apply, toNumeric, h, hx n hn]

/-- **A column keeps what it has stored**. -/
theorem Affinity.apply_apply (a : Affinity) (cell : Cell) :
    a.apply (a.apply cell) = a.apply cell := by
  cases a with
  | none => rfl
  | numeric => exact toNumeric_toNumeric cell
  | text => cases cell <;> rfl
  | real =>
    have hkept := toNumeric_toNumeric cell
    cases hcell : toNumeric cell with
    | int n =>
      have happly : Affinity.real.apply cell = .real (.ofInt n) := by simp [apply, hcell]
      rw [happly, apply_real_of_whole fun k hk => Binary64.ofInt_of_toInt?_ofInt hk]
    | _ =>
      rw [hcell] at hkept
      simp [apply, hcell, hkept]

end Store

end CardHealth
