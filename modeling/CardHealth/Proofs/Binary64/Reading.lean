import CardHealth.Binary64.Reader
import CardHealth.Binary64.Shortest
import CardHealth.Proofs.Binary64.Rounding

/-!
# The ratios that read back

Every ratio in the reading interval of a positive double is rounded to that double
(`roundUnits_of_contains`).  Such a ratio is above the double by at most half a step, or below it by
at most half the distance to the neighbour there, and a ratio in the middle is allowed only where
the significand is even.  Below a power of two the steps are half as long, and it is in these that
the ratio is rounded.

`IsDouble` tells the counts of units that a double can have from the others; what is rounded is
always one of them (`isDouble_ofRatio`).
-/

namespace CardHealth.Binary64

variable {num den units m k : Nat}

/-! ### Significands -/

/-- The count of units `m · 2 ^ k` with a significand `m` of at most 53 binary digits, which has all
of them unless `k` is zero. -/
structure IsScaled (units m k : Nat) : Prop where
  units_eq : units = m * 2 ^ k
  lt : m < 2 ^ 53
  le : k = 0 ∨ 2 ^ 52 ≤ m

/-- The spacing at a ratio from `2 ^ 52` steps on to below `2 ^ 53` of them is the step. -/
theorem spacing_div_eq (hden : 0 < den) (hlt : num < 2 ^ 53 * (den * 2 ^ k))
    (hle : k = 0 ∨ 2 ^ 52 * (den * 2 ^ k) ≤ num) : spacing (num / den) = 2 ^ k := by
  have hdvd : spacing (num / den) ∣ 2 ^ k := by
    apply spacing_dvd_two_pow
    rw [Nat.div_lt_iff_lt_mul hden]
    calc num < 2 ^ 53 * (den * 2 ^ k) := hlt
      _ = 2 ^ (k + 53) * den := by ring
  rcases hle with rfl | hle
  · exact Nat.eq_one_of_dvd_one hdvd
  · refine Nat.dvd_antisymm hdvd (two_pow_dvd_spacing ?_)
    rw [Nat.le_div_iff_mul_le hden]
    calc 2 ^ (k + 52) * den = 2 ^ 52 * (den * 2 ^ k) := by ring
      _ ≤ num := hle

/-- Every ratio has a step of this kind. -/
theorem exists_spacing_div_eq (num : Nat) (hden : 0 < den) :
    ∃ k, spacing (num / den) = 2 ^ k ∧ num < 2 ^ 53 * (den * 2 ^ k) ∧
      (k = 0 ∨ 2 ^ 52 * (den * 2 ^ k) ≤ num) := by
  have hlog := Nat.lt_log2_self (n := num / den)
  refine ⟨(num / den).log2 + 1 - 53, rfl, ?_, ?_⟩
  · have hlt : num / den < 2 ^ ((num / den).log2 + 1 - 53 + 53) :=
      lt_of_lt_of_le hlog (Nat.pow_le_pow_right (by decide) (by omega))
    calc num < 2 ^ ((num / den).log2 + 1 - 53 + 53) * den := (Nat.div_lt_iff_lt_mul hden).mp hlt
      _ = 2 ^ 53 * (den * 2 ^ ((num / den).log2 + 1 - 53)) := by ring
  · rcases Nat.eq_zero_or_pos ((num / den).log2 + 1 - 53) with hzero | hpos
    · exact .inl hzero
    · -- a quotient of more than 53 binary digits has `2 ^ 52` steps
      right
      have hne : num / den ≠ 0 := by
        intro h
        rw [h, Nat.log2_zero] at hpos
        omega
      have hexp : (num / den).log2 = (num / den).log2 + 1 - 53 + 52 := by omega
      have hle := Nat.log2_self_le hne
      rw [hexp, Nat.le_div_iff_mul_le hden] at hle
      calc 2 ^ 52 * (den * 2 ^ ((num / den).log2 + 1 - 53))
          = 2 ^ ((num / den).log2 + 1 - 53 + 52) * den := by ring
        _ ≤ num := hle

theorem IsScaled.pos (h : IsScaled units m k) (hpos : 0 < units) : 0 < m := by
  rw [h.units_eq] at hpos
  exact Nat.pos_of_mul_pos_right hpos

theorem IsScaled.spacing_eq (h : IsScaled units m k) : spacing units = 2 ^ k := by
  have hdiv := @spacing_div_eq units 1 k Nat.one_pos
  rw [Nat.div_one, Nat.one_mul, h.units_eq] at hdiv
  rw [h.units_eq]
  exact hdiv (Nat.mul_lt_mul_of_pos_right h.lt (Nat.two_pow_pos k))
    (h.le.imp_right (Nat.mul_le_mul_right _))

/-- A multiple of its own spacing is a significand times a power of two. -/
theorem exists_isScaled (h : spacing units ∣ units) : ∃ m k, IsScaled units m k := by
  obtain ⟨k, hk, hlt, hle⟩ := exists_spacing_div_eq units Nat.one_pos
  rw [Nat.div_one] at hk
  rw [Nat.one_mul] at hlt hle
  rw [hk] at h
  obtain ⟨m, rfl⟩ := h
  rw [Nat.mul_comm (2 ^ k)] at hlt hle ⊢
  exact ⟨m, k, rfl, Nat.lt_of_mul_lt_mul_right hlt,
    hle.imp_right fun hle => Nat.le_of_mul_le_mul_right hle (Nat.two_pow_pos k)⟩

/-- Up to `2 ^ 53` steps make a double: where all `2 ^ 53` are taken, the step is longer, but it
divides the count. -/
theorem spacing_dvd_mul_two_pow (hle : m ≤ 2 ^ 53) (hge : k = 0 ∨ 2 ^ 52 ≤ m) :
    spacing (m * 2 ^ k) ∣ m * 2 ^ k := by
  rcases Nat.lt_or_eq_of_le hle with hlt | rfl
  · rw [(IsScaled.mk rfl hlt hge).spacing_eq]
    exact Nat.dvd_mul_left _ _
  · rw [← Nat.pow_add]
    refine (spacing_dvd_two_pow (k := k + 1) ?_).trans (Nat.pow_dvd_pow 2 (by omega))
    exact Nat.pow_lt_pow_right (by decide) (by omega)

/-! ### Rounded ratios -/

/-- The nearest whole number, which is even if another one is as near. -/
theorem roundDiv_eq {q : Nat} (hden : 0 < den) (hlo : 2 * (q * den) ≤ 2 * num + den)
    (hhi : 2 * num ≤ 2 * (q * den) + den)
    (hodd : q % 2 = 1 → 2 * (q * den) < 2 * num + den ∧ 2 * num < 2 * (q * den) + den) :
    roundDiv num den = q := by
  have hdiv := Nat.div_add_mod' num den
  have hmod := Nat.mod_lt num hden
  have hlow : num / den ≤ q := by
    by_contra hlt
    have hmul : (q + 1) * den ≤ num / den * den := Nat.mul_le_mul_right _ (by omega)
    rw [Nat.add_mul] at hmul
    omega
  have hhigh : q ≤ num / den + 1 := by
    by_contra hlt
    have hmul : (num / den + 2) * den ≤ q * den := Nat.mul_le_mul_right _ (by omega)
    rw [Nat.add_mul] at hmul
    omega
  unfold roundDiv
  dsimp only
  -- Either the quotient is rounded down, or it is rounded up.
  rcases Nat.le_and_le_add_one_iff.mp ⟨hlow, hhigh⟩ with rfl | rfl
  · split_ifs <;> omega
  · rw [Nat.add_mul] at hlo hhi hodd
    split_ifs <;> omega

theorem roundUnits_eq (hs : spacing (num / den) = 2 ^ k) :
    roundUnits num den = roundDiv num (den * 2 ^ k) * 2 ^ k := by
  simp only [roundUnits, hs]

theorem spacing_dvd_roundUnits_ratio (num : Nat) (hden : 0 < den) :
    spacing (roundUnits num den) ∣ roundUnits num den := by
  obtain ⟨k, hk, hlt, hle⟩ := exists_spacing_div_eq num hden
  have hstep : 0 < den * 2 ^ k := Nat.mul_pos hden (Nat.two_pow_pos k)
  rw [roundUnits_eq hk]
  apply spacing_dvd_mul_two_pow
  · have hdiv : num / (den * 2 ^ k) < 2 ^ 53 := (Nat.div_lt_iff_lt_mul hstep).mpr hlt
    have hround := roundDiv_mul_le_two_mul num (den * 2 ^ k)
    by_contra hgt
    have hmul : (2 ^ 53 + 1) * (den * 2 ^ k) ≤ roundDiv num (den * 2 ^ k) * (den * 2 ^ k) :=
      Nat.mul_le_mul_right _ (by omega)
    omega
  · refine hle.imp_right fun hle => ?_
    exact ((Nat.le_div_iff_mul_le hstep).mpr hle).trans (div_le_roundDiv _ _)

/-! ### Doubles -/

/-- The doubles: the count of units of a finite one is less than the limit, and its own spacing
divides it. -/
inductive IsDouble : Binary64 → Prop where
  | nan : IsDouble .nan
  | infinity (negative : Bool) : IsDouble (.infinity negative)
  | finite (negative : Bool) {units : Nat} (dvd : spacing units ∣ units) (lt : units < limit) :
    IsDouble (.finite negative units)

theorem limit_pos : 0 < limit := by decide +kernel

theorem isDouble_zero (negative : Bool) : (finite negative 0).IsDouble :=
  .finite negative (Nat.dvd_zero _) limit_pos

/-- **A rounded ratio is a double**. -/
theorem isDouble_ofRatio (negative : Bool) (num : Nat) (hden : 0 < den) :
    (ofRatio negative num den).IsDouble := by
  unfold ofRatio ofUnits
  split_ifs with hlt
  · exact .finite negative (spacing_dvd_roundUnits_ratio _ hden) hlt
  · exact .infinity negative

theorem isDouble_ofInt (n : Int) : (ofInt n).IsDouble :=
  isDouble_ofRatio _ _ Nat.one_pos

theorem isDouble_toBinary64 (d : Decimal) : d.toBinary64.IsDouble := by
  unfold Decimal.toBinary64
  dsimp only
  split_ifs
  · exact isDouble_zero _
  · exact .infinity _
  · exact isDouble_zero _
  · exact isDouble_ofRatio _ _ Nat.one_pos
  · exact isDouble_ofRatio _ _ (Nat.pow_pos (by decide))

/-! ### Reading intervals -/

/-- Membership in an interval depends on the ratio alone. -/
theorem ReadingInterval.contains_congr (i : ReadingInterval) {n n' d d' : Nat} (hd : 0 < d)
    (hd' : 0 < d') (h : n * d' = n' * d) : i.contains n d = i.contains n' d' := by
  have hle : ∀ a, a * d ≤ n ↔ a * d' ≤ n' := fun a => by
    rw [← Nat.mul_le_mul_right_iff hd', h, Nat.mul_right_comm, Nat.mul_le_mul_right_iff hd]
  have hge : ∀ a, n ≤ a * d ↔ n' ≤ a * d' := fun a => by
    rw [← Nat.mul_le_mul_right_iff hd', h, Nat.mul_right_comm, Nat.mul_le_mul_right_iff hd]
  have hlt : ∀ a, a * d < n ↔ a * d' < n' := fun a => by
    rw [← Nat.not_le, hge, Nat.not_le]
  have hgt : ∀ a, n < a * d ↔ n' < a * d' := fun a => by
    rw [← Nat.not_le, hle, Nat.not_le]
  simp only [contains, hle, hge, hlt, hgt]

/-- The distance to the neighbour below, in half units: half a step below a power of two. -/
def below (m k : Nat) : Nat :=
  if m = 2 ^ 52 ∧ k ≠ 0 then 2 ^ k else 2 * 2 ^ k

theorem IsScaled.eq_two_pow_log2_iff (h : IsScaled units m k) (hk : k ≠ 0) :
    units = 2 ^ units.log2 ↔ m = 2 ^ 52 := by
  have hle : 2 ^ 52 ≤ m := h.le.resolve_left hk
  have hpos := Nat.two_pow_pos k
  have hne : units ≠ 0 := by
    rw [h.units_eq]
    exact (Nat.mul_pos (by omega) hpos).ne'
  have hlog : units.log2 = 52 + k := by
    rw [Nat.log2_eq_iff hne, h.units_eq, Nat.pow_add 2 52, show 52 + k + 1 = 53 + k by omega,
      Nat.pow_add 2 53]
    exact ⟨Nat.mul_le_mul_right _ hle, Nat.mul_lt_mul_of_pos_right h.lt hpos⟩
  rw [hlog, h.units_eq, Nat.pow_add, Nat.mul_left_inj hpos.ne']

theorem IsScaled.readingInterval_eq (h : IsScaled units m k) :
    readingInterval units =
      ⟨4 * units - below m k, 4 * units + 2 * 2 ^ k, m % 2 == 0⟩ := by
  have hstep : 1 < 2 ^ k ↔ k ≠ 0 := Nat.one_lt_two_pow_iff
  have hdiv : units / 2 ^ k = m := by
    rw [h.units_eq, Nat.mul_div_cancel _ (Nat.two_pow_pos k)]
  have hbelow : (units == 2 ^ units.log2 && decide (1 < 2 ^ k)) = decide (m = 2 ^ 52 ∧ k ≠ 0) := by
    rw [Bool.eq_iff_iff]
    simp only [Bool.and_eq_true, beq_iff_eq, decide_eq_true_eq, hstep]
    exact and_congr_left fun hk => h.eq_two_pow_log2_iff hk
  unfold readingInterval below
  simp only [h.spacing_eq, hdiv, Nat.pow_eq, gt_iff_lt, hbelow, decide_eq_true_eq]

theorem ReadingInterval.le_of_contains {i : ReadingInterval} {n d : Nat}
    (h : i.contains n d = true) :
    i.low * d ≤ n ∧ n ≤ i.high * d ∧ (i.closed = false → i.low * d < n ∧ n < i.high * d) := by
  unfold contains at h
  split_ifs at h with hclosed
  · simp only [Bool.and_eq_true, decide_eq_true_eq] at h
    exact ⟨h.1, h.2, fun hopen => absurd hclosed (by simp [hopen])⟩
  · simp only [Bool.and_eq_true, decide_eq_true_eq] at h
    exact ⟨h.1.le, h.2.le, fun _ => h⟩

/-- What is in the interval of a double, in steps. -/
theorem IsScaled.le_of_contains {n : Nat} (hunits : IsScaled units m k)
    (h : (readingInterval units).contains n den = true) :
    4 * (m * (den * 2 ^ k)) ≤ n + below m k * den ∧
      n ≤ 4 * (m * (den * 2 ^ k)) + 2 * (den * 2 ^ k) ∧
      (m % 2 = 1 → 4 * (m * (den * 2 ^ k)) < n + below m k * den ∧
        n < 4 * (m * (den * 2 ^ k)) + 2 * (den * 2 ^ k)) := by
  rw [hunits.readingInterval_eq] at h
  obtain ⟨hlow, hhigh, hopen⟩ := ReadingInterval.le_of_contains h
  have hscale : 4 * units * den = 4 * (m * (den * 2 ^ k)) := by
    rw [hunits.units_eq]
    ring
  have hstep : 2 * 2 ^ k * den = 2 * (den * 2 ^ k) := by ring
  simp only [Nat.sub_mul, Nat.add_mul, hscale, hstep, beq_eq_false_iff_ne] at hlow hhigh hopen
  refine ⟨by omega, hhigh, fun hodd => ?_⟩
  obtain ⟨hlow, hhigh⟩ := hopen (by omega)
  exact ⟨by omega, hhigh⟩

/-- Just below a power of two, in steps of half the length. -/
theorem roundUnits_of_lt_two_pow {j : Nat} (hden : 0 < den)
    (hlow : 2 * (2 ^ 53 * (den * 2 ^ j)) ≤ 2 * num + den * 2 ^ j)
    (hlt : num < 2 ^ 53 * (den * 2 ^ j)) : roundUnits num den = 2 ^ 53 * 2 ^ j := by
  have hstep : 0 < den * 2 ^ j := Nat.mul_pos hden (Nat.two_pow_pos j)
  have hs : spacing (num / den) = 2 ^ j := spacing_div_eq hden hlt (.inr (by omega))
  rw [roundUnits_eq hs, roundDiv_eq (q := 2 ^ 53) hstep hlow (by omega) (by omega)]

/-- **What is in the interval of a double reads back** as that double. -/
theorem roundUnits_of_contains (hden : 0 < den) (hunits : spacing units ∣ units)
    (h : (readingInterval units).contains (4 * num) den = true) :
    roundUnits num den = units := by
  obtain ⟨m, k, hscaled⟩ := exists_isScaled hunits
  obtain ⟨hlow, hhigh, hodd⟩ := hscaled.le_of_contains h
  have hstep : 0 < den * 2 ^ k := Nat.mul_pos hden (Nat.two_pow_pos k)
  by_cases hpower : (m = 2 ^ 52 ∧ k ≠ 0) ∧ num < m * (den * 2 ^ k)
  · -- the binade of the ratio is the one below
    obtain ⟨⟨rfl, hk⟩, hlt⟩ := hpower
    obtain ⟨j, rfl⟩ : ∃ j, k = j + 1 := ⟨k - 1, by omega⟩
    have hbelow : below (2 ^ 52) (j + 1) * den = 2 * (den * 2 ^ j) := by
      rw [below, if_pos ⟨rfl, hk⟩]
      ring
    have hhalf : den * 2 ^ (j + 1) = 2 * (den * 2 ^ j) := by ring
    rw [hhalf] at hlow hlt
    rw [hbelow] at hlow
    rw [roundUnits_of_lt_two_pow (j := j) hden (by omega) (by omega), hscaled.units_eq]
    ring
  · -- the binade of the ratio is that of the double, and so is the length of the steps
    have hbelow : num < m * (den * 2 ^ k) → below m k * den = 2 * (den * 2 ^ k) := fun hlt => by
      rw [below, if_neg fun hp => hpower ⟨hp, hlt⟩]
      ring
    have htop : m * (den * 2 ^ k) + den * 2 ^ k ≤ 2 ^ 53 * (den * 2 ^ k) := by
      rw [← Nat.add_one_mul]
      exact Nat.mul_le_mul_right _ hscaled.lt
    have hbottom : k = 0 ∨ 2 ^ 52 * (den * 2 ^ k) ≤ num := by
      rcases hscaled.le with hk | hle
      · exact .inl hk
      · rcases Nat.lt_or_eq_of_le hle with hlt | rfl
        · have hmul : (2 ^ 52 + 1) * (den * 2 ^ k) ≤ m * (den * 2 ^ k) :=
            Nat.mul_le_mul_right _ hlt
          omega
        · omega
    have hs : spacing (num / den) = 2 ^ k := spacing_div_eq hden (by omega) hbottom
    rw [roundUnits_eq hs, roundDiv_eq (q := m) hstep (by omega) (by omega) (by omega),
      hscaled.units_eq]

end CardHealth.Binary64
