import CardHealth.Proofs.Binary64.Rounding
import CardHealth.Proofs.Numeral.Plain
import CardHealth.Validation
import Mathlib.Data.Rat.Cast.Order

/-!
# Integers that values denote

`Value.DenotesInt` says which integer a value is, without a word about how it is read: a double is
the rational number that it stands for, and a text or a byte string is what it spells.
`Value.toInt` gives that integer and no other (`toInt_eq_ok_iff`).  It keeps within a limit for each
kind of value: 64 bits for doubles, `Numeral.maxDigits` digits and signs for texts, and none for
integers.
-/

namespace CardHealth

/-! ### Doubles -/

namespace Binary64

/-- The rational number that a finite double stands for. -/
def toRat? : Binary64 → Option ℚ
  | .finite negative units => some ((signedUnits negative units : ℚ) / one)
  | _ => none

theorem signedUnits_eq_mul_one {negative : Bool} {units : Nat} {k : Int}
    (h : (finite negative units).toInt? = some k) : signedUnits negative units = k * one := by
  rw [toInt?] at h
  split at h
  · rename_i hwhole
    obtain rfl := Option.some.inj h
    have hunits : units / one * one = units :=
      Nat.div_mul_cancel (Nat.dvd_of_mod_eq_zero (beq_iff_eq.mp hwhole))
    unfold signedUnits
    split_ifs
    · rw [Int.neg_mul, ← Int.natCast_mul, hunits]
    · rw [← Int.natCast_mul, hunits]
  · cases h

theorem toInt?_of_signedUnits_eq {negative : Bool} {units : Nat} {k : Int}
    (h : signedUnits negative units = k * one) : (finite negative units).toInt? = some k := by
  have hone : (one : Int) ≠ 0 := by exact_mod_cast one_pos.ne'
  have hunits : units = k.natAbs * one := by
    have habs := natAbs_signedUnits negative units
    rw [h, Int.natAbs_mul, Int.natAbs_natCast] at habs
    exact habs.symm
  rw [hunits, toInt?_finite_mul_one]
  -- The sign is the same on both sides of `h`.
  have hsigned : signedUnits negative units = signedUnits negative k.natAbs * one := by
    rw [hunits]
    unfold signedUnits
    split_ifs <;> push_cast <;> ring
  exact congrArg some (Int.eq_of_mul_eq_mul_right hone (hsigned.symm.trans h))

/-- **A double is read as the integer that it is equal to**. -/
theorem toInt?_eq_some_iff {x : Binary64} {k : Int} :
    x.toInt? = some k ↔ x.toRat? = some (k : ℚ) := by
  have hone : (one : ℚ) ≠ 0 := by exact_mod_cast one_pos.ne'
  cases x with
  | finite negative units =>
    have hrat : (finite negative units).toRat? = some (k : ℚ) ↔
        signedUnits negative units = k * one := by
      rw [toRat?, Option.some.injEq, div_eq_iff hone, ← Int.cast_natCast one, ← Int.cast_mul,
        Int.cast_inj]
    rw [hrat]
    exact ⟨signedUnits_eq_mul_one, toInt?_of_signedUnits_eq⟩
  | infinity negative => simp [toInt?, toRat?]
  | nan => simp [toInt?, toRat?]

end Binary64

namespace Value

theorem intOfFloat_eq_ok_iff {x : Binary64} {n : Int} :
    intOfFloat x = .ok n ↔
      x.toInt? = some n ∧ -Numeral.wordLimit < n ∧ n < Numeral.wordLimit := by
  unfold intOfFloat
  constructor
  · intro h
    split at h
    · split at h
      · rename_i k hk
        split at h
        · rename_i hbound
          obtain rfl := Except.ok.inj h
          exact ⟨hk, hbound⟩
        · cases h
      · cases h
    · cases h
  · rintro ⟨hx, hbound⟩
    have hfinite : x.isFinite = true := by
      cases x with
      | finite negative units => rfl
      | infinity negative => cases hx
      | nan => cases hx
    rw [if_pos hfinite, hx]
    exact if_pos hbound

/-! ### Texts -/

/-- A value holds a text: as it is, or in UTF-8 as a byte string that cannot change. -/
inductive HoldsText : Value → String → Prop where
  | text (s : String) : HoldsText (.text s) s
  | bytes {data : Bytes} {s : String} (decoded : Text.decodeUtf8? data = some s) :
      HoldsText (.bytes .fixed data) s

theorem HoldsText.unique {v : Value} {s t : String} (hs : v.HoldsText s) (ht : v.HoldsText t) :
    s = t := by
  cases hs with
  | text s =>
    cases ht
    rfl
  | bytes decoded =>
    cases ht with
    | bytes decoded' => exact Option.some.inj (decoded.symm.trans decoded')

theorem intOfText_eq_ok_iff {s : List Char} {n : Int} :
    intOfText s = .ok n ↔
      Numeral.DenotesPlain s n ∧ Numeral.IsShort n := by
  rw [← Numeral.readPlain_eq_ok_iff]
  unfold intOfText
  split <;> simp_all

/-- A byte string is read as an integer exactly if the text that it holds is. -/
theorem toInt_bytes_eq_ok_iff {kind : BytesKind} {data : Bytes} {n : Int} :
    (bytes kind data).toInt = .ok n ↔
      ∃ s, HoldsText (.bytes kind data) s ∧ intOfText s.toList = .ok n := by
  cases kind with
  | growable | view =>
    constructor
    · intro h
      cases h
    · rintro ⟨s, hs, -⟩
      cases hs
  | fixed =>
    rw [toInt]
    constructor
    · intro h
      cases hdecoded : Text.decodeUtf8? data with
      | none =>
        rw [hdecoded] at h
        cases h
      | some s =>
        rw [hdecoded] at h
        exact ⟨s, .bytes hdecoded, h⟩
    · rintro ⟨s, hs, hread⟩
      cases hs with
      | bytes decoded =>
        rw [decoded]
        exact hread

/-! ### All values -/

/-- The integer that a value denotes. -/
inductive DenotesInt : Value → Int → Prop where
  | bool (b : Bool) : DenotesInt (.bool b) (if b then 1 else 0)
  | int (n : Int) : DenotesInt (.int n) n
  | float {x : Binary64} {n : Int} (equal : x.toRat? = some (n : ℚ)) : DenotesInt (.float x) n
  | numeral {v : Value} {s : String} {n : Int} (held : v.HoldsText s)
      (denoted : Numeral.DenotesPlain s.toList n) : DenotesInt v n

/-- Whether an integer is within the limit for the kind of value that denotes it. -/
def WithinLimit : Value → Int → Prop
  | .float _, n => -2 ^ 63 < n ∧ n < 2 ^ 63
  | .text _, n | .bytes _ _, n => Numeral.IsShort n
  | _, _ => True

/-- **A value denotes one integer at most**. -/
theorem DenotesInt.unique {v : Value} {m n : Int} (hm : v.DenotesInt m) (hn : v.DenotesInt n) :
    m = n := by
  cases hm with
  | bool b =>
    cases hn with
    | bool => rfl
    | numeral held _ => cases held
  | int m =>
    cases hn with
    | int => rfl
    | numeral held _ => cases held
  | float equal =>
    cases hn with
    | float equal' =>
      have hcast : (m : ℚ) = n := Option.some.inj (equal.symm.trans equal')
      exact_mod_cast hcast
    | numeral held _ => cases held
  | numeral held denoted =>
    cases hn with
    | bool => cases held
    | int => cases held
    | float => cases held
    | numeral held' denoted' =>
      obtain rfl := held.unique held'
      exact denoted.unique denoted'

/-- **A value is read as the integer that it denotes**, within the limit, and no other value is
read. -/
theorem toInt_eq_ok_iff {v : Value} {n : Int} :
    v.toInt = .ok n ↔ v.DenotesInt n ∧ v.WithinLimit n := by
  constructor
  · intro h
    cases v with
    | bool b =>
      obtain rfl := Except.ok.inj h
      exact ⟨.bool b, trivial⟩
    | int m =>
      obtain rfl := Except.ok.inj h
      exact ⟨.int m, trivial⟩
    | float x =>
      obtain ⟨hx, hbound⟩ := intOfFloat_eq_ok_iff.mp h
      exact ⟨.float (Binary64.toInt?_eq_some_iff.mp hx), hbound⟩
    | text s =>
      obtain ⟨hs, hshort⟩ := intOfText_eq_ok_iff.mp h
      exact ⟨.numeral (.text s) hs, hshort⟩
    | bytes kind data =>
      obtain ⟨s, held, hs⟩ := toInt_bytes_eq_ok_iff.mp h
      obtain ⟨hs, hshort⟩ := intOfText_eq_ok_iff.mp hs
      exact ⟨.numeral held hs, hshort⟩
    | null => cases h
    | list items => cases h
    | object fields => cases h
  · rintro ⟨hdenoted, hlimit⟩
    cases hdenoted with
    | bool b => rfl
    | int => rfl
    | float equal => exact intOfFloat_eq_ok_iff.mpr ⟨Binary64.toInt?_eq_some_iff.mpr equal, hlimit⟩
    | numeral held denoted =>
      cases held with
      | text s => exact intOfText_eq_ok_iff.mpr ⟨denoted, hlimit⟩
      | bytes decoded =>
        exact toInt_bytes_eq_ok_iff.mpr
          ⟨_, .bytes decoded, intOfText_eq_ok_iff.mpr ⟨denoted, hlimit⟩⟩

/-- **Zeros in front do not matter**: with them a text is read as the same integer, however many
there are. -/
theorem toInt_of_withZeros {v w : Value} {s t : String} {k : Nat} {n : Int}
    (hv : v.HoldsText s) (hw : w.HoldsText t) (ht : t.toList = Numeral.withZeros k s.toList)
    (h : v.toInt = .ok n) : w.toInt = .ok n := by
  obtain ⟨hdenoted, hlimit⟩ := toInt_eq_ok_iff.mp h
  have hs : Numeral.DenotesPlain s.toList n := by
    cases hdenoted with
    | bool => cases hv
    | int => cases hv
    | float => cases hv
    | numeral held denoted => rwa [hv.unique held]
  have hshort : Numeral.IsShort n := by
    cases hv <;> exact hlimit
  apply toInt_eq_ok_iff.mpr
  constructor
  · apply DenotesInt.numeral hw
    rw [ht]
    exact hs.withZeros k
  · cases hw <;> exact hshort

end Value

end CardHealth
