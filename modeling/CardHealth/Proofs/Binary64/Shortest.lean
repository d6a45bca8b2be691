import CardHealth.Proofs.Binary64.Reading
import CardHealth.Proofs.Numeral.Digits
import Mathlib.Algebra.Order.Field.Basic
import Mathlib.Tactic.FieldSimp
import Mathlib.Tactic.Positivity

/-!
# The shortest digits read back

`Binary64.shortest` looks for a multiple of a power of ten in the reading interval of a double.
Seventeen digits are enough (`exists_onGrid?_eq_some`): the multiples of `10 ^ (top - 16)` are
nearer to each other than the ends of the interval, since a double has at most 53 binary digits and
`2 ^ 53 < 10 ^ 16`.  What is found is rounded to the double again (`exists_shortest_eq`).
-/

namespace CardHealth.Binary64

variable {units m k : Nat}

/-! ### Powers of ten -/

theorem scaleTen_snd_pos (n : Nat) (e : Int) : 0 < (scaleTen n e).2 := by
  unfold scaleTen
  split_ifs
  · exact Nat.one_pos
  · exact Nat.pow_pos (by decide)

theorem scaleTen_ratio (n : Nat) (e : Int) :
    ((scaleTen n e).1 : ℚ) / (scaleTen n e).2 = n * 10 ^ e := by
  unfold scaleTen
  split_ifs with he
  · obtain ⟨k, rfl⟩ := Int.eq_ofNat_of_zero_le he
    simp
  · obtain ⟨k, hk⟩ := Int.eq_ofNat_of_zero_le (show 0 ≤ -e by omega)
    obtain rfl : e = -(k : Int) := by omega
    simp [div_eq_mul_inv]

theorem exists_one_le_ten_pow : ∃ j < 325, one ≤ 10 ^ j :=
  ⟨324, by decide, by decide +kernel⟩

/-- The decimal exponent is not too great. -/
theorem ten_zpow_decimalExponent_le (hpos : 0 < units) :
    (10 : ℚ) ^ decimalExponent units ≤ units / one := by
  have hone : (0 : ℚ) < one := by exact_mod_cast one_pos
  rw [le_div_iff₀ hone]
  unfold decimalExponent
  split_ifs with hle
  · obtain ⟨k, hk, hpow, -⟩ := Numeral.exists_length_toDigits_eq (Nat.div_pos hle one_pos)
    have hexp : ((k + 1 : Nat) : Int) - 1 = k := by omega
    rw [hk, hexp, zpow_natCast]
    exact_mod_cast (Nat.le_div_iff_mul_le one_pos).mp hpow
  · split
    · rename_i j hfind
      have hj : one ≤ units * 10 ^ j := by simpa using List.find?_some hfind
      rw [zpow_neg, zpow_natCast, inv_mul_le_iff₀ (by positivity), mul_comm]
      exact_mod_cast hj
    · -- the range has an exponent at which a single unit would do
      rename_i hnone
      obtain ⟨j, hj, hten⟩ := exists_one_le_ten_pow
      have hlt := List.find?_eq_none.mp hnone j (List.mem_range.mpr hj)
      exact absurd (decide_eq_true (hten.trans (Nat.le_mul_of_pos_left _ hpos))) hlt

/-! ### Grids -/

theorem below_mul_le (m k den : Nat) : below m k * den ≤ 2 * (den * 2 ^ k) := by
  have hstep : 2 * 2 ^ k * den = 2 * (den * 2 ^ k) := by ring
  have hle : below m k ≤ 2 * 2 ^ k := by
    unfold below
    split_ifs <;> omega
  rw [← hstep]
  exact Nat.mul_le_mul_right _ hle

/-- What is strictly inside the interval of a double, in steps. -/
theorem IsScaled.contains_of_lt {n den : Nat} (hunits : IsScaled units m k) (hpos : 0 < m)
    (hlow : 4 * (m * (den * 2 ^ k)) < n + below m k * den)
    (hhigh : n < 4 * (m * (den * 2 ^ k)) + 2 * (den * 2 ^ k)) :
    (readingInterval units).contains n den = true := by
  have hscale : 4 * units * den = 4 * (m * (den * 2 ^ k)) := by
    rw [hunits.units_eq]
    ring
  have hstep : 2 * 2 ^ k * den = 2 * (den * 2 ^ k) := by ring
  have hbelow := below_mul_le m k den
  have hmul : den * 2 ^ k ≤ m * (den * 2 ^ k) := Nat.le_mul_of_pos_left _ hpos
  rw [hunits.readingInterval_eq]
  unfold ReadingInterval.contains
  simp only [Nat.sub_mul, Nat.add_mul, hscale, hstep]
  split_ifs
  · simp only [Bool.and_eq_true, decide_eq_true_eq]
    omega
  · simp only [Bool.and_eq_true, decide_eq_true_eq]
    omega

/-- What a grid has to offer lies in the interval. -/
theorem contains_of_onGrid? {e : Int} {n : Nat} (h : onGrid? units e = some n) :
    (readingInterval units).contains (n * (scaleTen (4 * one) e).1) (scaleTen (4 * one) e).2 =
      true := by
  unfold onGrid? at h
  dsimp only at h
  split_ifs at h with hlower hupper
  · obtain rfl := Option.some.inj h
    exact (Bool.and_eq_true_iff.mp hlower).1
  · obtain rfl := Option.some.inj h
    exact hupper

/-- The ends of the interval of a double are further apart than the members of a grid that divides
the double into `10 ^ 16` parts. -/
theorem IsScaled.lt_width {step den : Nat} (hunits : IsScaled units m k) (hden : 0 < den)
    (hfine : 10 ^ 16 * step ≤ 4 * (m * (den * 2 ^ k))) :
    step < below m k * den + 2 * (den * 2 ^ k) := by
  have hD : 0 < den * 2 ^ k := Nat.mul_pos hden (Nat.two_pow_pos k)
  by_cases hpower : m = 2 ^ 52 ∧ k ≠ 0
  · have hbelow : below m k * den = den * 2 ^ k := by
      rw [below, if_pos hpower, Nat.mul_comm]
    rw [hpower.1] at hfine
    rw [hbelow]
    omega
  · have hbelow : below m k * den = 2 * (den * 2 ^ k) := by
      rw [below, if_neg hpower]
      ring
    have hm : m * (den * 2 ^ k) ≤ 2 ^ 53 * (den * 2 ^ k) := Nat.mul_le_mul_right _ hunits.lt.le
    rw [hbelow]
    omega

/-- One of the two neighbours of a double on such a grid reads back. -/
theorem exists_onGrid?_eq_some {e : Int} (hpos : 0 < units) (hunits : spacing units ∣ units)
    (hstep : 0 < (scaleTen (4 * one) e).1)
    (hfine : 10 ^ 16 * (scaleTen (4 * one) e).1 ≤ 4 * units * (scaleTen (4 * one) e).2) :
    ∃ n, onGrid? units e = some n := by
  obtain ⟨m, k, hscaled⟩ := exists_isScaled hunits
  have hden := scaleTen_snd_pos (4 * one) e
  have hm := hscaled.pos hpos
  unfold onGrid?
  dsimp only
  generalize (scaleTen (4 * one) e).1 = step at *
  generalize (scaleTen (4 * one) e).2 = den at *
  have htarget : 4 * units * den = 4 * (m * (den * 2 ^ k)) := by
    rw [hscaled.units_eq]
    ring
  rw [htarget] at hfine ⊢
  have hwidth := hscaled.lt_width hden hfine
  have hD : 0 < den * 2 ^ k := Nat.mul_pos hden (Nat.two_pow_pos k)
  have hdiv := Nat.div_add_mod' (4 * (m * (den * 2 ^ k))) step
  have hmod := Nat.mod_lt (4 * (m * (den * 2 ^ k))) hstep
  generalize 4 * (m * (den * 2 ^ k)) / step = lower at *
  -- If the multiple below is outside the interval, the next one is inside: the interval is wider
  -- than a step of the grid.
  have hfits : (readingInterval units).contains (lower * step) den = true ∨
      (readingInterval units).contains ((lower + 1) * step) den = true := by
    rcases Nat.lt_or_ge (4 * (m * (den * 2 ^ k))) (lower * step + below m k * den) with hin | hout
    · exact .inl (hscaled.contains_of_lt hm hin (by omega))
    · right
      apply hscaled.contains_of_lt hm
      · rw [Nat.add_mul]
        omega
      · rw [Nat.add_mul]
        omega
  split_ifs with hlower hupper
  · exact ⟨_, rfl⟩
  · exact ⟨_, rfl⟩
  · exfalso
    rcases hfits with hfits | hfits
    · exact hlower (by simp [hfits, hupper])
    · exact hupper hfits

/-! ### The shortest digits -/

/-- Seventeen digits are enough. -/
theorem exists_onGrid?_decimalExponent (hpos : 0 < units) (hunits : spacing units ∣ units) :
    ∃ n, onGrid? units (decimalExponent units - 16) = some n := by
  have htop := ten_zpow_decimalExponent_le hpos
  have hone : (0 : ℚ) < one := Nat.cast_pos.mpr one_pos
  have hden : (0 : ℚ) < (scaleTen (4 * one) (decimalExponent units - 16)).2 :=
    Nat.cast_pos.mpr (scaleTen_snd_pos (4 * one) (decimalExponent units - 16))
  have hratio := scaleTen_ratio (4 * one) (decimalExponent units - 16)
  have hten : (0 : ℚ) < 10 ^ (decimalExponent units - 16) := zpow_pos (by norm_num) _
  rw [div_eq_iff hden.ne', Nat.cast_mul, Nat.cast_ofNat] at hratio
  rw [le_div_iff₀ hone] at htop
  have hgrid := @exists_onGrid?_eq_some units (decimalExponent units - 16) hpos hunits
  generalize (scaleTen (4 * one) (decimalExponent units - 16)).1 = step at *
  generalize (scaleTen (4 * one) (decimalExponent units - 16)).2 = den at *
  generalize decimalExponent units = top at *
  generalize one = u at *
  have hsplit : (10 : ℚ) ^ top = 10 ^ 16 * 10 ^ (top - 16) := by
    rw [← zpow_natCast, ← zpow_add₀ (by norm_num)]
    congr 1
    omega
  have hstep : (0 : ℚ) < step := by
    rw [hratio]
    positivity
  have hfine : (10 : ℚ) ^ 16 * step ≤ 4 * units * den := by
    calc (10 : ℚ) ^ 16 * step = 4 * (10 ^ top * u) * den := by
          rw [hratio, hsplit]
          ring
      _ ≤ 4 * units * den := by gcongr
  exact hgrid (by exact_mod_cast hstep) (by exact_mod_cast hfine)

/-- The search ends with a multiple of some power of ten that reads back. -/
theorem exists_onGrid?_shortest (hpos : 0 < units) (hunits : spacing units ∣ units) :
    ∃ n e, onGrid? units e = some n ∧ shortest units = DecimalDigits.ofScaled n e := by
  obtain ⟨n, hn⟩ := exists_onGrid?_decimalExponent hpos hunits
  unfold shortest
  dsimp only
  split
  · rename_i digits hfound
    obtain ⟨more, -, hmore⟩ := List.exists_of_findSome?_eq_some hfound
    obtain ⟨n, hgrid, rfl⟩ := Option.map_eq_some_iff.mp hmore
    exact ⟨n, _, hgrid, rfl⟩
  · -- the search does not fail, for it would come to seventeen digits
    rename_i hnone
    have hlast := List.findSome?_eq_none_iff.mp hnone 16 (by decide)
    rw [Nat.cast_ofNat, hn] at hlast
    cases hlast

/-- Zero is read as no other double. -/
theorem pos_of_onGrid? {n : Nat} {e : Int} (hpos : 0 < units) (hunits : spacing units ∣ units)
    (h : onGrid? units e = some n) : 0 < n := by
  have hden := scaleTen_snd_pos (4 * one) e
  obtain ⟨m, k, hscaled⟩ := exists_isScaled hunits
  have hlow := (hscaled.le_of_contains (contains_of_onGrid? h)).1
  generalize (scaleTen (4 * one) e).1 = step at *
  generalize (scaleTen (4 * one) e).2 = den at *
  have hm := hscaled.pos hpos
  have hbelow := below_mul_le m k den
  have hmul : den * 2 ^ k ≤ m * (den * 2 ^ k) := Nat.le_mul_of_pos_left _ hm
  have hD : 0 < den * 2 ^ k := Nat.mul_pos hden (Nat.two_pow_pos k)
  exact Nat.pos_of_mul_pos_right (show 0 < n * step by omega)

/-- A multiple that reads back is rounded to the double, however it is written as a ratio. -/
theorem roundUnits_of_onGrid? {n : Nat} {e : Int} (hunits : spacing units ∣ units)
    (h : onGrid? units e = some n) {num den : Nat} (hd : 0 < den)
    (hvalue : (num : ℚ) / den = n * 10 ^ e) : roundUnits (num * one) den = units := by
  have hcontains := contains_of_onGrid? h
  have hden := scaleTen_snd_pos (4 * one) e
  have hratio := scaleTen_ratio (4 * one) e
  generalize (scaleTen (4 * one) e).1 = step at *
  generalize (scaleTen (4 * one) e).2 = d at *
  apply roundUnits_of_contains hd hunits
  rw [← hcontains]
  apply ReadingInterval.contains_congr _ hd hden
  have hdQ : (den : ℚ) ≠ 0 := Nat.cast_ne_zero.mpr hd.ne'
  have hdenQ : (d : ℚ) ≠ 0 := Nat.cast_ne_zero.mpr hden.ne'
  rw [div_eq_iff hdQ] at hvalue
  rw [div_eq_iff hdenQ, Nat.cast_mul, Nat.cast_ofNat] at hratio
  -- The unit is a large power of two, which must not be evaluated.
  generalize one = u at *
  have hcross : (4 * (num * u) * d : ℚ) = n * step * den := by
    rw [hvalue, hratio]
    ring
  exact_mod_cast hcross

/-- **The shortest digits read back**: however the number that they denote is written as a ratio,
that ratio is rounded to the double. -/
theorem exists_shortest_eq (hpos : 0 < units) (hunits : spacing units ∣ units) :
    ∃ n e, 0 < n ∧ shortest units = DecimalDigits.ofScaled n e ∧
      ∀ num den : Nat, 0 < den → (num : ℚ) / den = n * 10 ^ e →
        roundUnits (num * one) den = units := by
  obtain ⟨n, e, hgrid, hshortest⟩ := exists_onGrid?_shortest hpos hunits
  refine ⟨n, e, pos_of_onGrid? hpos hunits hgrid, hshortest, fun num den hd hvalue => ?_⟩
  exact roundUnits_of_onGrid? hunits hgrid hd hvalue

end CardHealth.Binary64
