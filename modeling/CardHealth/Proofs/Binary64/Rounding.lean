import CardHealth.Binary64
import Mathlib.Algebra.Order.Ring.Nat
import Mathlib.Tactic.Linarith
import Mathlib.Tactic.Ring

/-!
# Rounding whole counts of units

`roundUnits n 1` is a multiple of `spacing n` (`spacing_dvd_roundUnits`) at a distance of at most
half of that from `n` (`two_mul_le_roundUnits`, `roundUnits_le_two_mul`), and it does not fall below
a power of two that `n` reaches (`two_pow_le_roundUnits`).

The main result is `two_pow_le_roundUnits_add`: two rounded numbers up to `2 ^ 63` whose exact sum
reaches `2 ^ 63` have a rounded sum that reaches it too.  Each of the three roundings may go down.
Below `2 ^ 63` the doubles are `2 ^ 10` apart, and the two summands together lose at most
`2 ^ 9`, half of that; a tie there goes up, to the even neighbour `2 ^ 63`.
-/

namespace CardHealth.Binary64

theorem one_eq : one = 2 ^ 1074 := by decide +kernel

theorem one_pos : 0 < one := by decide +kernel

/-! ### Quotients -/

theorem div_le_roundDiv (num den : Nat) : num / den ≤ roundDiv num den := by
  unfold roundDiv
  dsimp only
  split_ifs <;> omega

theorem two_mul_le_roundDiv_mul (num : Nat) {den : Nat} (hden : 0 < den) :
    2 * num ≤ 2 * (roundDiv num den * den) + den := by
  have hdiv := Nat.div_add_mod' num den
  have hmod := Nat.mod_lt num hden
  unfold roundDiv
  dsimp only
  split_ifs with h1 h2
  · omega
  · rw [Nat.add_mul]
    omega
  · have : num / den * den ≤ (num / den + num / den % 2) * den :=
      Nat.mul_le_mul_right _ (Nat.le_add_right _ _)
    omega

theorem roundDiv_mul_le_two_mul (num den : Nat) :
    2 * (roundDiv num den * den) ≤ 2 * num + den := by
  have hdiv := Nat.div_add_mod' num den
  unfold roundDiv
  dsimp only
  split_ifs with h1 h2
  · omega
  · rw [Nat.add_mul]
    omega
  · have : (num / den + num / den % 2) * den ≤ (num / den + 1) * den :=
      Nat.mul_le_mul_right _ (by omega)
    rw [Nat.add_mul _ 1] at this
    omega

/-- From the middle of the last step on, an odd quotient is rounded up. -/
theorem roundDiv_of_odd {num den q : Nat} (hq : q % 2 = 1) (hlo : 2 * (q * den) + den ≤ 2 * num)
    (hhi : num < (q + 1) * den) : roundDiv num den = q + 1 := by
  have hdiv : num / den = q := Nat.div_eq_of_lt_le (by omega) hhi
  have hmod := Nat.div_add_mod' num den
  rw [hdiv] at hmod
  unfold roundDiv
  simp only [hdiv]
  split_ifs <;> omega

/-! ### Spacing -/

theorem spacing_eq (n : Nat) : spacing n = 2 ^ (n.log2 + 1 - 53) := rfl

theorem spacing_pos (n : Nat) : 0 < spacing n := by
  rw [spacing_eq]
  exact Nat.two_pow_pos _

theorem spacing_dvd_two_pow {n k : Nat} (h : n < 2 ^ (k + 53)) : spacing n ∣ 2 ^ k := by
  rw [spacing_eq]
  apply Nat.pow_dvd_pow
  rcases Nat.eq_zero_or_pos n with rfl | hpos
  · rw [Nat.log2_zero]
    omega
  · have := (Nat.log2_lt hpos.ne').mpr h
    omega

theorem two_pow_dvd_spacing {n k : Nat} (h : 2 ^ (k + 52) ≤ n) : 2 ^ k ∣ spacing n := by
  rw [spacing_eq]
  apply Nat.pow_dvd_pow
  have hpos : n ≠ 0 := (lt_of_lt_of_le (Nat.two_pow_pos _) h).ne'
  have := (Nat.le_log2 hpos).mpr h
  omega

/-! ### Counts of units -/

theorem roundUnits_one_right (n : Nat) :
    roundUnits n 1 = roundDiv n (spacing n) * spacing n := by
  unfold roundUnits
  simp only [Nat.div_one, Nat.one_mul]

theorem spacing_dvd_roundUnits (n : Nat) : spacing n ∣ roundUnits n 1 := by
  rw [roundUnits_one_right]
  exact Nat.dvd_mul_left _ _

theorem two_mul_le_roundUnits (n : Nat) : 2 * n ≤ 2 * roundUnits n 1 + spacing n := by
  rw [roundUnits_one_right]
  exact two_mul_le_roundDiv_mul n (spacing_pos n)

theorem roundUnits_le_two_mul (n : Nat) : roundUnits n 1 ≤ 2 * n := by
  rcases Nat.eq_zero_or_pos n with rfl | hpos
  · decide
  · have hle : spacing n ≤ n := by
      rw [spacing_eq]
      calc 2 ^ (n.log2 + 1 - 53) ≤ 2 ^ n.log2 := Nat.pow_le_pow_right (by omega) (by omega)
        _ ≤ n := Nat.log2_self_le hpos.ne'
    have := roundDiv_mul_le_two_mul n (spacing n)
    rw [roundUnits_one_right]
    omega

/-- A power of two is its own rounding, and rounding is monotone. -/
theorem two_pow_le_roundUnits {n k : Nat} (h : 2 ^ k ≤ n) : 2 ^ k ≤ roundUnits n 1 := by
  have hn : n ≠ 0 := (lt_of_lt_of_le (Nat.two_pow_pos _) h).ne'
  have hk : k ≤ n.log2 := (Nat.le_log2 hn).mpr h
  have hdvd : spacing n ∣ 2 ^ n.log2 := by
    rw [spacing_eq]
    exact Nat.pow_dvd_pow 2 (by omega)
  rw [roundUnits_one_right]
  calc 2 ^ k ≤ 2 ^ n.log2 := Nat.pow_le_pow_right (by omega) hk
    _ = 2 ^ n.log2 / spacing n * spacing n := (Nat.div_mul_cancel hdvd).symm
    _ ≤ roundDiv n (spacing n) * spacing n := by
      refine Nat.mul_le_mul_right _ (le_trans ?_ (div_le_roundDiv _ _))
      exact Nat.div_le_div_right (Nat.log2_self_le hn)

theorem two_pow_le_of_succ_le_roundUnits {n k : Nat} (h : 2 ^ (k + 1) ≤ roundUnits n 1) :
    2 ^ k ≤ n := by
  have := h.trans (roundUnits_le_two_mul n)
  rw [Nat.pow_succ'] at this
  omega

/-- A count of units that misses a power of two by at most half the spacing below it is rounded up
to it: the last significand below is odd, so that a tie goes up too. -/
theorem two_pow_le_roundUnits_of_half {n k : Nat} (h : 2 ^ (k + 54) ≤ n + 2 ^ k) :
    2 ^ (k + 54) ≤ roundUnits n 1 := by
  rcases Nat.lt_or_ge n (2 ^ (k + 54)) with hlt | hge
  · have hs : spacing n = 2 * 2 ^ k := by
      have hlow : 2 ^ (k + 1 + 52) ≤ n := by
        have hnext : 2 ^ (k + 54) = 2 * 2 ^ (k + 1 + 52) := Nat.pow_succ'
        have hdown : 2 ^ k ≤ 2 ^ (k + 1 + 52) := Nat.pow_le_pow_right (by omega) (by omega)
        omega
      rw [← Nat.pow_succ']
      exact Nat.dvd_antisymm (spacing_dvd_two_pow (by omega)) (two_pow_dvd_spacing hlow)
    have hround : roundDiv n (spacing n) = 2 ^ 53 - 1 + 1 := by
      rw [Nat.pow_add 2 k] at h hlt
      apply roundDiv_of_odd (q := 2 ^ 53 - 1) (by norm_num) <;> rw [hs] <;> omega
    rw [roundUnits_one_right, hround, hs, Nat.pow_add 2 k]
    omega
  · exact two_pow_le_roundUnits hge

/-! ### Sums -/

/-- The larger summand lies in `[2 ^ 62, 2 ^ 63)`, where the spacing is `2 ^ 10`; everything is
counted in steps of the spacing of the smaller one, which divides `2 ^ 9`. -/
private theorem two_pow_le_add_of_lt {a b e : Nat} (ha : 2 ^ 62 ≤ a) (ha' : a < 2 ^ 63)
    (hb : b < 2 ^ 62) (hab : 2 ^ 63 ≤ a + b) :
    2 ^ (e + 9 + 54) ≤ roundUnits (a * 2 ^ e) 1 + roundUnits (b * 2 ^ e) 1 + 2 ^ (e + 9) := by
  have hpos : 0 < 2 ^ e := Nat.two_pow_pos e
  have hsa : spacing (a * 2 ^ e) = 2 ^ (e + 10) := by
    apply Nat.dvd_antisymm
    · apply spacing_dvd_two_pow
      rw [show e + 10 + 53 = 63 + e by omega, Nat.pow_add]
      exact Nat.mul_lt_mul_of_pos_right ha' hpos
    · apply two_pow_dvd_spacing
      rw [show e + 10 + 52 = 62 + e by omega, Nat.pow_add]
      exact Nat.mul_le_mul_right _ ha
  have hsb : spacing (b * 2 ^ e) ∣ 2 ^ (e + 9) := by
    apply spacing_dvd_two_pow
    rw [show e + 9 + 53 = 62 + e by omega, Nat.pow_add]
    exact Nat.mul_lt_mul_of_pos_right hb hpos
  have hsum : 2 ^ 54 * 2 ^ (e + 9) ≤ a * 2 ^ e + b * 2 ^ e := by
    rw [← Nat.add_mul, ← Nat.pow_add, show 54 + (e + 9) = 63 + e by omega, Nat.pow_add]
    exact Nat.mul_le_mul_right _ hab
  obtain ⟨α, hα⟩ := spacing_dvd_roundUnits (a * 2 ^ e)
  obtain ⟨β, hβ⟩ := spacing_dvd_roundUnits (b * 2 ^ e)
  obtain ⟨γ, hγ⟩ := hsb
  have hA := two_mul_le_roundUnits (a * 2 ^ e)
  have hB := two_mul_le_roundUnits (b * 2 ^ e)
  rw [hα, hsa, Nat.pow_succ' (n := e + 9), hγ] at hA
  rw [hβ] at hB
  rw [hγ] at hsum
  rw [hα, hβ, hsa, Nat.pow_succ' (n := e + 9), Nat.pow_add _ (e + 9) 54, hγ]
  have hpos := spacing_pos (b * 2 ^ e)
  generalize spacing (b * 2 ^ e) = s at *
  -- in steps of `s`
  have hsteps : 2 ^ 55 * γ * s ≤ (4 * (γ * α) + 2 * β + 2 * γ + 1) * s := by
    calc 2 ^ 55 * γ * s = 2 * (2 ^ 54 * (s * γ)) := by ring
      _ ≤ 2 * (2 * (s * γ) * α) + 2 * (s * γ) + (2 * (s * β) + s) := by linarith
      _ = (4 * (γ * α) + 2 * β + 2 * γ + 1) * s := by ring
  have hle := Nat.le_of_mul_le_mul_right hsteps hpos
  -- both sides but for the last `1` are even
  have heven : 2 ^ 54 * γ ≤ 2 * (γ * α) + β + γ := by omega
  calc s * γ * 2 ^ 54 = 2 ^ 54 * γ * s := by ring
    _ ≤ (2 * (γ * α) + β + γ) * s := Nat.mul_le_mul_right _ heven
    _ = 2 * (s * γ) * α + s * β + s * γ := by ring

/-- **Rounding keeps an overflow**: two numbers up to `2 ^ 63` with a sum of at least `2 ^ 63`, in
units of `2 ^ -e`. -/
theorem two_pow_le_roundUnits_add {a b : Nat} (e : Nat) (ha : a ≤ 2 ^ 63) (hb : b ≤ 2 ^ 63)
    (hab : 2 ^ 63 ≤ a + b) :
    2 ^ (e + 63) ≤ roundUnits (roundUnits (a * 2 ^ e) 1 + roundUnits (b * 2 ^ e) 1) 1 := by
  wlog hle : b ≤ a generalizing a b
  · rw [Nat.add_comm (roundUnits _ _)]
    exact this hb ha (by omega) (by omega)
  have hscale : ∀ {c k : Nat}, 2 ^ k ≤ c → 2 ^ (e + k) ≤ roundUnits (c * 2 ^ e) 1 := by
    intro c k hc
    apply two_pow_le_roundUnits
    rw [Nat.add_comm, Nat.pow_add]
    exact Nat.mul_le_mul_right _ hc
  rcases Nat.lt_or_ge a (2 ^ 63) with ha' | ha'
  · rcases Nat.lt_or_ge b (2 ^ 62) with hb' | hb'
    · exact two_pow_le_roundUnits_of_half (two_pow_le_add_of_lt (by omega) ha' hb' hab)
    · apply two_pow_le_roundUnits
      have h1 := hscale (show 2 ^ 62 ≤ a by omega)
      have h2 := hscale hb'
      rw [show e + 63 = e + 62 + 1 by omega, Nat.pow_succ]
      omega
  · apply two_pow_le_roundUnits
    exact le_trans (hscale ha') (Nat.le_add_right _ _)

/-- The rounded sum is whole: the spacing at its size is a multiple of one. -/
theorem exists_roundUnits_add_eq {a b : Nat} (e : Nat) (ha : a ≤ 2 ^ 63) (hb : b ≤ 2 ^ 63)
    (hab : 2 ^ 63 ≤ a + b) :
    ∃ k, 0 < roundUnits (a * 2 ^ e) 1 + roundUnits (b * 2 ^ e) 1 ∧ 2 ^ 63 ≤ k ∧
      roundUnits (roundUnits (a * 2 ^ e) 1 + roundUnits (b * 2 ^ e) 1) 1 = k * 2 ^ e := by
  have hbig := two_pow_le_roundUnits_add e ha hb hab
  generalize roundUnits (a * 2 ^ e) 1 + roundUnits (b * 2 ^ e) 1 = n at *
  have hn : 2 ^ (e + 62) ≤ n := two_pow_le_of_succ_le_roundUnits hbig
  have hdvd : 2 ^ e ∣ roundUnits n 1 := by
    refine (two_pow_dvd_spacing (le_trans ?_ hn)).trans (spacing_dvd_roundUnits n)
    exact Nat.pow_le_pow_right (by decide) (by omega)
  refine ⟨roundUnits n 1 / 2 ^ e, lt_of_lt_of_le (Nat.two_pow_pos _) hn, ?_, ?_⟩
  · rw [Nat.le_div_iff_mul_le (Nat.two_pow_pos e), Nat.mul_comm, ← Nat.pow_add]
    exact hbig
  · exact (Nat.div_mul_cancel hdvd).symm

theorem roundUnits_add_le {a b u : Nat} (ha : a ≤ 2 ^ 63) (hb : b ≤ 2 ^ 63) :
    roundUnits (roundUnits (a * u) 1 + roundUnits (b * u) 1) 1 ≤ 2 ^ 66 * u := by
  calc roundUnits (roundUnits (a * u) 1 + roundUnits (b * u) 1) 1
      ≤ 2 * (roundUnits (a * u) 1 + roundUnits (b * u) 1) := roundUnits_le_two_mul _
    _ ≤ 2 * (2 * (a * u) + 2 * (b * u)) := by
      gcongr <;> exact roundUnits_le_two_mul _
    _ ≤ 2 * (2 * (2 ^ 63 * u) + 2 * (2 ^ 63 * u)) := by gcongr
    _ = 2 ^ 66 * u := by ring

/-! ### Finite doubles of one sign -/

theorem signedUnits_add (negative : Bool) (m n : Nat) :
    signedUnits negative m + signedUnits negative n = signedUnits negative (m + n) := by
  unfold signedUnits
  split_ifs <;> omega

theorem natAbs_signedUnits (negative : Bool) (n : Nat) : (signedUnits negative n).natAbs = n := by
  unfold signedUnits
  split_ifs <;> omega

theorem signedUnits_neg_iff {negative : Bool} {n : Nat} (h : 0 < n) :
    signedUnits negative n < 0 ↔ negative = true := by
  unfold signedUnits
  cases negative <;> simp [h]

theorem toInt?_finite_mul_one (negative : Bool) (k : Nat) :
    (finite negative (k * one)).toInt? = some (signedUnits negative k) := by
  simp only [toInt?, Nat.mul_mod_left, beq_self_eq_true, ↓reduceIte, Nat.mul_div_cancel _ one_pos]

theorem add_finite_of_pos {negative : Bool} {m n : Nat} (h : 0 < m + n) :
    add (.finite negative m) (.finite negative n) =
      ofUnits negative (roundUnits (m + n) 1) := by
  have hzero : signedUnits negative (m + n) ≠ 0 := by
    intro h0
    have := natAbs_signedUnits negative (m + n)
    rw [h0, Int.natAbs_zero] at this
    omega
  unfold add
  simp only [signedUnits_add, beq_iff_eq, hzero, ↓reduceIte, natAbs_signedUnits,
    signedUnits_neg_iff h, Bool.decide_eq_true]

/-! ### Integers of 64 bits -/

/-- The double nearest to an integer of 64 bits is finite. -/
theorem ofInt_eq_finite {n : Int} (h : n.natAbs ≤ 2 ^ 63) :
    ofInt n = .finite (n < 0) (roundUnits (n.natAbs * one) 1) := by
  have hround := roundUnits_le_two_mul (n.natAbs * one)
  have hlt : roundUnits (n.natAbs * one) 1 < limit := by
    calc roundUnits (n.natAbs * one) 1 ≤ 2 * (n.natAbs * one) := hround
      _ ≤ 2 * (2 ^ 63 * one) := by gcongr
      _ < limit := by decide +kernel
  unfold ofInt ofRatio ofUnits
  rw [if_pos hlt]

/-- The double sum of two integers of 64 bits and of one sign whose exact sum leaves the range is a
whole number outside the range, with that sign. -/
theorem exists_add_ofInt_eq {a b : Int} (hsign : a < 0 ↔ b < 0) (ha : a.natAbs ≤ 2 ^ 63)
    (hb : b.natAbs ≤ 2 ^ 63) (hab : 2 ^ 63 ≤ a.natAbs + b.natAbs) :
    ∃ k, 2 ^ 63 ≤ k ∧ add (ofInt a) (ofInt b) = .finite (a < 0) (k * one) := by
  rw [ofInt_eq_finite ha, ofInt_eq_finite hb, ← decide_eq_decide.mpr hsign]
  obtain ⟨k, hk, hlow, hround⟩ := exists_roundUnits_add_eq 1074 ha hb hab
  rw [← one_eq] at hk hround
  have hhigh := le_of_eq_of_le hround.symm (roundUnits_add_le ha hb)
  refine ⟨k, hlow, ?_⟩
  rw [add_finite_of_pos hk, hround, ofUnits, if_pos (lt_of_le_of_lt hhigh ?_)]
  decide +kernel

end CardHealth.Binary64
