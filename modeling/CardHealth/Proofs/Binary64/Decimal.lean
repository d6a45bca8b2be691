import CardHealth.Proofs.Binary64.Shortest
import CardHealth.Proofs.Numeral.Digits
import CardHealth.Proofs.Text.Blank

/-!
# Decimal numbers as doubles

`Decimal.toBinary64` rounds the number that a decimal denotes, and the limits on its size change
nothing: from `10 ^ 400` on the rounded count is beyond the limit anyway, and below `10 ^ -401` it
is zero (`toBinary64_eq_finite`).

`shortest_reads_back` says which number the shortest digits of a double denote: one that reads
back.
-/

namespace CardHealth

open Numeral

/-! ### Sizes of rounded ratios -/

namespace Binary64

variable {num den units : Nat}

/-- Rounding keeps a ratio above a power of two. -/
theorem two_pow_le_roundUnits_ratio {j : Nat} (hden : 0 < den) (h : 2 ^ j * den ≤ num) :
    2 ^ j ≤ roundUnits num den := by
  obtain ⟨k, hk, -, hle⟩ := exists_spacing_div_eq num hden
  have hstep : 0 < den * 2 ^ k := Nat.mul_pos hden (Nat.two_pow_pos k)
  rw [roundUnits_eq hk]
  rcases Nat.lt_or_ge j k with hlt | hge
  · -- the significand has all its digits
    have hquot : 2 ^ 52 ≤ num / (den * 2 ^ k) :=
      (Nat.le_div_iff_mul_le hstep).mpr (hle.resolve_left (by omega))
    calc 2 ^ j ≤ 2 ^ 52 * 2 ^ k := by
          rw [← Nat.pow_add]
          exact Nat.pow_le_pow_right (by decide) (by omega)
      _ ≤ roundDiv num (den * 2 ^ k) * 2 ^ k :=
          Nat.mul_le_mul_right _ (hquot.trans (div_le_roundDiv _ _))
  · have hsplit : 2 ^ j = 2 ^ (j - k) * 2 ^ k := by rw [← Nat.pow_add, Nat.sub_add_cancel hge]
    have hquot : 2 ^ (j - k) ≤ num / (den * 2 ^ k) := by
      rw [Nat.le_div_iff_mul_le hstep]
      calc 2 ^ (j - k) * (den * 2 ^ k) = 2 ^ j * den := by
            rw [hsplit]
            ring
        _ ≤ num := h
    calc 2 ^ j = 2 ^ (j - k) * 2 ^ k := hsplit
      _ ≤ roundDiv num (den * 2 ^ k) * 2 ^ k :=
          Nat.mul_le_mul_right _ (hquot.trans (div_le_roundDiv _ _))

theorem roundUnits_eq_zero (h : 2 * num < den) : roundUnits num den = 0 := by
  have hquot : num / den = 0 := Nat.div_eq_of_lt (by omega)
  have hs : spacing (num / den) = 2 ^ 0 := by
    rw [hquot]
    rfl
  rw [roundUnits_eq hs, roundDiv_eq (q := 0) (by omega) (by omega) (by omega) (by omega),
    Nat.zero_mul]

theorem ten_pow_mul_le_of_le_ratio {j : Nat} (hden : 0 < den)
    (h : (10 : ℚ) ^ (j : Int) ≤ (num : ℚ) / den) : 10 ^ j * den ≤ num := by
  have hdenQ : (0 : ℚ) < den := Nat.cast_pos.mpr hden
  rw [le_div_iff₀ hdenQ, zpow_natCast] at h
  exact_mod_cast h

theorem mul_ten_pow_lt_of_ratio_lt {j : Nat} (hden : 0 < den)
    (h : (num : ℚ) / den < 10 ^ (-(j : Int))) : num * 10 ^ j < den := by
  have hdenQ : (0 : ℚ) < den := Nat.cast_pos.mpr hden
  have hten : (0 : ℚ) < 10 ^ j := by positivity
  rw [div_lt_iff₀ hdenQ, zpow_neg, zpow_natCast, inv_mul_eq_div, lt_div_iff₀ hten] at h
  exact_mod_cast h

/-- From `10 ^ 400` on, no rounded ratio is finite. -/
theorem limit_le_roundUnits (hden : 0 < den) (h : 10 ^ 400 * den ≤ num) :
    limit ≤ roundUnits (num * one) den := by
  obtain ⟨j, hlimit, hj⟩ : ∃ j, limit = 2 ^ j ∧ 2 ^ j ≤ 10 ^ 400 * one :=
    ⟨2098, by decide +kernel, by decide +kernel⟩
  rw [hlimit]
  apply two_pow_le_roundUnits_ratio hden
  calc 2 ^ j * den ≤ 10 ^ 400 * one * den := Nat.mul_le_mul_right _ hj
    _ = 10 ^ 400 * den * one := Nat.mul_right_comm _ _ _
    _ ≤ num * one := Nat.mul_le_mul_right _ h

/-- Below `10 ^ -401`, every rounded ratio is zero. -/
theorem roundUnits_eq_zero_of_lt (h : num * 10 ^ 401 < den) : roundUnits (num * one) den = 0 := by
  have hone : 2 * one ≤ 10 ^ 401 := by decide +kernel
  apply roundUnits_eq_zero
  calc 2 * (num * one) = num * (2 * one) := Nat.mul_left_comm _ _ _
    _ ≤ num * 10 ^ 401 := Nat.mul_le_mul_left _ hone
    _ < den := h

end Binary64

/-! ### Decimal numbers -/

namespace Decimal

open Binary64

/-- The number that a decimal denotes, without its sign. -/
def magnitude (d : Decimal) : ℚ :=
  d.digits * 10 ^ d.exponent

/-- The place of the first digit tells the size of a number. -/
theorem magnitude_bounds {d : Decimal} (hd : d.digits ≠ 0) :
    (10 : ℚ) ^ ((Nat.toDigits 10 d.digits).length + d.exponent - 1) ≤ d.magnitude ∧
      d.magnitude < 10 ^ ((Nat.toDigits 10 d.digits).length + d.exponent) := by
  have hten : (0 : ℚ) < 10 ^ d.exponent := zpow_pos (by norm_num) _
  obtain ⟨k, hk, hlow, hhigh⟩ := exists_length_toDigits_eq (Nat.pos_of_ne_zero hd)
  have hdown : ((k + 1 : Nat) : Int) + d.exponent - 1 = k + d.exponent := by omega
  rw [hk, hdown, zpow_add₀ (by norm_num), zpow_add₀ (by norm_num), zpow_natCast, zpow_natCast]
  unfold magnitude
  constructor
  · gcongr
    exact_mod_cast hlow
  · gcongr
    exact_mod_cast hhigh

/-- **A decimal that reads back** is rounded to what it is to read back as, whatever its size. -/
theorem toBinary64_eq_finite {d : Decimal} {units : Nat} (hpos : 0 < units) (hlt : units < limit)
    (hround : ∀ num den : Nat, 0 < den → (num : ℚ) / den = d.magnitude →
      roundUnits (num * one) den = units) : d.toBinary64 = .finite d.negative units := by
  have hden := scaleTen_snd_pos d.digits d.exponent
  have hratio := scaleTen_ratio d.digits d.exponent
  have hunits := hround _ _ hden hratio
  have hnonzero : d.digits ≠ 0 := by
    intro hzero
    have hround := hround 0 1 Nat.one_pos (by rw [magnitude, hzero]; simp)
    rw [Nat.zero_mul, roundUnits_eq_zero (by decide)] at hround
    omega
  obtain ⟨hlow, hhigh⟩ := magnitude_bounds hnonzero
  rw [magnitude, ← hratio] at hlow hhigh
  -- Neither limit cuts the number off, since it is rounded to a positive finite count.
  have hbig : ¬ (Nat.toDigits 10 d.digits).length + d.exponent > 400 := by
    intro htop
    have hge := ten_pow_mul_le_of_le_ratio (j := 400) hden
      ((zpow_le_zpow_right₀ (by norm_num) (by omega)).trans hlow)
    have hlimit := limit_le_roundUnits hden hge
    rw [hunits] at hlimit
    exact absurd hlt (Nat.not_lt.mpr hlimit)
  have hsmall : ¬ (Nat.toDigits 10 d.digits).length + d.exponent < -400 := by
    intro htop
    have hle := mul_ten_pow_lt_of_ratio_lt (j := 401) hden
      (hhigh.trans_le (zpow_le_zpow_right₀ (by norm_num) (by omega)))
    rw [roundUnits_eq_zero_of_lt hle] at hunits
    omega
  have hofRatio : ofRatio d.negative (scaleTen d.digits d.exponent).1
      (scaleTen d.digits d.exponent).2 = .finite d.negative units := by
    unfold ofRatio ofUnits
    rw [hunits, if_pos hlt]
  unfold toBinary64
  rw [if_neg (by simpa using hnonzero)]
  dsimp only
  rw [if_neg hbig, if_neg hsmall, ← hofRatio]
  unfold scaleTen
  split_ifs <;> rfl

end Decimal

/-! ### Shortest digits -/

namespace DecimalDigits

/-- At least one digit, and no zero at the head. -/
structure WellFormed (d : DecimalDigits) : Prop where
  ne_nil : d.digits ≠ []
  areDigits : AreDigits d.digits
  head_ne : d.digits.head? ≠ some '0'

/-- The number that digits denote. -/
def value (d : DecimalDigits) : ℚ :=
  Nat.ofDigitChars 10 d.digits 0 * 10 ^ (d.point - d.digits.length)

/-- The digits of a number and the zeros that are dropped at their end. -/
theorem exists_toDigits_eq (n : Nat) (e : Int) :
    ∃ j, Nat.toDigits 10 n = (ofScaled n e).digits ++ List.replicate j '0' := by
  obtain ⟨after, heq, hafter⟩ := Text.exists_eq_dropTailWhile_append (· == '0') (Nat.toDigits 10 n)
  have hzeros : after = List.replicate after.length '0' :=
    List.eq_replicate_of_mem fun c hc => beq_iff_eq.mp (hafter c hc)
  refine ⟨after.length, ?_⟩
  rw [← hzeros]
  exact heq

variable {n : Nat}

theorem wellFormed_ofScaled (hn : 0 < n) (e : Int) : (ofScaled n e).WellFormed := by
  obtain ⟨j, hj⟩ := exists_toDigits_eq n e
  -- If all digits were dropped, they were zeros.
  have hne : (ofScaled n e).digits ≠ [] := by
    intro hnil
    have hvalue := @Nat.ofDigitChars_ten_toDigits n
    rw [hj, hnil, List.nil_append, ofDigitChars_zeros] at hvalue
    omega
  have hall := areDigits_toDigits n
  have hhead := head?_toDigits_ne hn
  rw [hj] at hall hhead
  rw [List.head?_append_of_ne_nil _ hne] at hhead
  exact ⟨hne, (List.forall_mem_append.mp hall).1, hhead⟩

theorem value_ofScaled (n : Nat) (e : Int) : (ofScaled n e).value = n * 10 ^ e := by
  obtain ⟨j, hj⟩ := exists_toDigits_eq n e
  have hvalue := @Nat.ofDigitChars_ten_toDigits n
  have hpoint : (ofScaled n e).point = e + (Nat.toDigits 10 n).length := rfl
  have hshift : e + (((ofScaled n e).digits.length + j : Nat) : Int) -
      (ofScaled n e).digits.length = j + e := by omega
  rw [hj, ofDigitChars_append, ofDigitChars_zeros, List.length_replicate] at hvalue
  rw [hj, List.length_append, List.length_replicate] at hpoint
  have hcast : (n : ℚ) = 10 ^ j * Nat.ofDigitChars 10 (ofScaled n e).digits 0 := by
    exact_mod_cast hvalue.symm
  rw [value, hpoint, hshift, zpow_add₀ (by norm_num), zpow_natCast, hcast]
  ring

end DecimalDigits

namespace Binary64

/-- **The number that the shortest digits denote reads back.** -/
theorem shortest_reads_back {units : Nat} (hpos : 0 < units) (hunits : spacing units ∣ units) :
    (shortest units).WellFormed ∧
      ∀ num den : Nat, 0 < den → (num : ℚ) / den = (shortest units).value →
        roundUnits (num * one) den = units := by
  obtain ⟨n, e, hn, hshortest, hround⟩ := exists_shortest_eq hpos hunits
  rw [hshortest, DecimalDigits.value_ofScaled]
  exact ⟨DecimalDigits.wellFormed_ofScaled hn e, hround⟩

end Binary64

end CardHealth
