import CardHealth.Proofs.Numeral.Clean

/-!
# The grammar of record fields

`Numeral.readPlain` accepts exactly the texts of a grammar that denote a number of at most
`maxDigits` decimal digits, the minus sign counted as one, and gives that number:
`readPlain_eq_ok_iff`.  `SpellsPlain` adds a sign to the bodies that can be cleaned, and
`DenotesPlain` the white space.

What is read in the end is the decimal text of the number (`readDecimal_eq_ok_iff`), so the limit is
a limit on the number, however it is written: zeros in front never matter
(`DenotesPlain.withZeros`).
-/

namespace CardHealth.Numeral

open Text

/-! ### The grammar -/

/-- The spellings of an integer: a sign and a spelling of its magnitude, or, for a negative one,
a minus sign within the spelling and no other in front. -/
inductive SpellsPlain : List Char → Int → Prop where
  | unsigned {s : List Char} {n : Nat} (h : SpellsWhole s n) : SpellsPlain s n
  | plus {s : List Char} {n : Nat} (h : SpellsWhole s n) : SpellsPlain ('+' :: s) n
  | minus {s : List Char} {n : Nat} (h : SpellsWhole s n) : SpellsPlain ('-' :: s) (-(n : Int))
  | inside {s : List Char} {n : Nat} (h : SpellsMinusInside s n) : SpellsPlain s (-(n : Int))
  | plusInside {s : List Char} {n : Nat} (h : SpellsMinusInside s n) :
      SpellsPlain ('+' :: s) (-(n : Int))

/-- A spelling of an integer with white space around it. -/
def DenotesPlain (s : List Char) (n : Int) : Prop :=
  ∃ before body after, s = before ++ body ++ after ∧ (∀ c ∈ before, isBlank c = true) ∧
    (∀ c ∈ after, isBlank c = true) ∧ SpellsPlain body n

/-- Whether an integer has at most `maxDigits` digits, a minus sign counted as one. -/
def IsShort (n : Int) : Prop :=
  -(10 ^ (maxDigits - 1) : Int) < n ∧ n < 10 ^ maxDigits

theorem IsShort.natAbs_lt {n : Int} (h : IsShort n) : n.natAbs < 10 ^ maxDigits := by
  have hpow : (10 ^ (maxDigits - 1) : Int) ≤ 10 ^ maxDigits :=
    pow_le_pow_right₀ (by decide) (Nat.sub_le ..)
  obtain ⟨hlow, hhigh⟩ := h
  zify
  rw [abs_lt]
  exact ⟨(neg_le_neg hpow).trans_lt hlow, hhigh⟩

/-! ### Decimal texts -/

/-- The decimal text of a number behind its minus sign, if it has one. -/
def decimalText (negative : Bool) (k : Nat) : List Char :=
  minusSign negative ++ Nat.toDigits 10 k

theorem toDigits_ne_minus_cons (k : Nat) (rest : List Char) :
    Nat.toDigits 10 k ≠ '-' :: rest := by
  intro hcons
  have hminus : '-' ∈ Nat.toDigits 10 k := by
    rw [hcons]
    exact List.mem_cons_self
  exact absurd (areDigits_toDigits k _ hminus) (by decide)

theorem takeMinus_toDigits (k : Nat) :
    takeMinus (Nat.toDigits 10 k) = (false, Nat.toDigits 10 k) := by
  rw [takeMinus]
  exact toDigits_ne_minus_cons k

theorem takeMinus_decimalText (negative : Bool) (k : Nat) :
    takeMinus (decimalText negative k) = (negative, Nat.toDigits 10 k) := by
  cases negative with
  | true => rfl
  | false => exact takeMinus_toDigits k

theorem eq_minusSign_append (s : List Char) :
    s = minusSign (takeMinus s).1 ++ (takeMinus s).2 := by
  unfold takeMinus
  split <;> rfl

theorem length_decimalText_le_iff (negative : Bool) (k : Nat) :
    (decimalText negative k).length ≤ maxDigits ↔ IsShort (signed negative k) := by
  have hpos : 0 < maxDigits - 1 := by decide
  have hnonneg : (0 : Int) ≤ k := Int.natCast_nonneg k
  have hpow (d : Nat) : (0 : Int) < 10 ^ d := pow_pos (by decide) d
  cases negative with
  | true =>
    have hlength : (decimalText true k).length = (Nat.toDigits 10 k).length + 1 := rfl
    have hshort : IsShort (signed true k) ↔ k < 10 ^ (maxDigits - 1) := by
      rw [IsShort, signed, if_pos rfl, neg_lt_neg_iff]
      constructor
      · intro h
        exact_mod_cast h.1
      · intro h
        exact ⟨by exact_mod_cast h, (neg_nonpos.mpr hnonneg).trans_lt (hpow _)⟩
    rw [hshort, hlength, ← Nat.length_toDigits_le_iff (by decide) hpos]
    omega
  | false =>
    have hlength : (decimalText false k).length = (Nat.toDigits 10 k).length := rfl
    have hshort : IsShort (signed false k) ↔ k < 10 ^ maxDigits := by
      rw [IsShort, signed, if_neg Bool.false_ne_true]
      constructor
      · intro h
        exact_mod_cast h.2
      · intro h
        exact ⟨(neg_neg_of_pos (hpow _)).trans_le hnonneg, by exact_mod_cast h⟩
    rw [hshort, hlength, Nat.length_toDigits_le_iff (by decide) (by decide)]

theorem signed_zero (negative : Bool) : signed negative 0 = 0 := by
  cases negative <;> rfl

theorem isShort_zero : IsShort 0 :=
  (length_decimalText_le_iff false 0).mp (by decide)

/-- **The decimal texts of the integers that are not too long are read**, and nothing else. -/
theorem readDecimal_eq_ok_iff {s : List Char} {n : Int} :
    readDecimal s = .ok n ↔
      ∃ negative k, s = decimalText negative k ∧ signed negative k = n ∧ IsShort n := by
  constructor
  · intro h
    have hs := eq_minusSign_append s
    unfold readDecimal at h
    generalize takeMinus s = parts at h hs
    obtain ⟨negative, body⟩ := parts
    dsimp only at h hs
    split_ifs at h with hzero hbad hlong hrest
    · obtain rfl := Except.ok.inj h
      rw [beq_iff_eq.mp hzero] at hs
      exact ⟨negative, 0, hs, signed_zero negative, isShort_zero⟩
    · -- The digits are the whole body, so they are written for their number.
      obtain rfl := Except.ok.inj h
      have hbody : body = body.takeWhile Char.isDigit := by simpa using hrest
      have hdigits : AreDigits body := by
        intro c hc
        rw [hbody] at hc
        exact List.mem_takeWhile_imp hc
      rw [← hbody] at hbad hlong ⊢
      simp only [Bool.or_eq_true, List.isEmpty_iff, beq_iff_eq, not_or] at hbad
      have htext : Nat.toDigits 10 (Nat.ofDigitChars 10 body 0) = body :=
        toDigits_ofDigitChars hdigits hbad.1 fun hhead => absurd hhead hbad.2
      have hwritten : s = decimalText negative (Nat.ofDigitChars 10 body 0) := by
        rw [decimalText, htext, hs]
      refine ⟨negative, Nat.ofDigitChars 10 body 0, hwritten, ?_, ?_⟩
      · rw [ofDigits_filterMap hdigits]
      · rw [ofDigits_filterMap hdigits, ← length_decimalText_le_iff, ← hwritten, hs,
          List.length_append]
        exact not_lt.mp hlong
  · rintro ⟨negative, k, rfl, rfl, hshort⟩
    rw [← length_decimalText_le_iff] at hshort
    unfold readDecimal
    rw [takeMinus_decimalText]
    dsimp only
    rcases Nat.eq_zero_or_pos k with rfl | hpos
    · rw [signed_zero]
      rfl
    · have hdigits := areDigits_toDigits k
      have hhead := head?_toDigits_ne hpos
      have htake : (Nat.toDigits 10 k).takeWhile Char.isDigit = Nat.toDigits 10 k :=
        List.takeWhile_eq_self_iff.mpr hdigits
      have hnot : Nat.toDigits 10 k ≠ ['0'] := by
        intro heq
        rw [heq] at hhead
        exact hhead rfl
      have hlength : ¬ (minusSign negative).length + (Nat.toDigits 10 k).length > maxDigits := by
        rw [decimalText, List.length_append] at hshort
        exact not_lt.mpr hshort
      rw [htake, if_neg (by simpa using hnot), if_neg (by simp [Nat.toDigits_ne_nil, hhead]),
        if_neg hlength, if_neg (by simp), ofDigits_filterMap hdigits,
        Nat.ofDigitChars_ten_toDigits]

/-! ### Signs -/

theorem SpellsWhole.exists_eq_cons {s : List Char} {n : Nat} (h : SpellsWhole s n) :
    ∃ c rest, s = c :: rest ∧ c.isDigit = true := by
  cases h with
  | @mk leading run fraction n hleading hrun hfraction =>
    by_cases hne : leading = []
    · obtain ⟨c, rest, rfl, hc⟩ := hrun.exists_eq_cons
      exact ⟨c, rest ++ fraction, by rw [hne]; rfl, hc⟩
    · obtain ⟨rest, rfl⟩ := hleading.exists_eq_cons hne
      exact ⟨'0', rest ++ run ++ fraction, rfl, by decide⟩

theorem SpellsMinusInside.exists_eq_cons {s : List Char} {n : Nat} (h : SpellsMinusInside s n) :
    ∃ c rest, s = c :: rest ∧ c.isDigit = true := by
  cases h with
  | mk hleading hne =>
    obtain ⟨rest, rfl⟩ := hleading.exists_eq_cons hne
    exact ⟨'0', _, rfl, by decide⟩

theorem clean?_minus (s : List Char) : clean? ('-' :: s) = (cleanBody? s).map ('-' :: ·) :=
  rfl

theorem clean?_of_takeSign {s body : List Char} (h : takeSign s = (false, body)) :
    clean? s = cleanBody? body := by
  rw [clean?, h]
  exact Option.map_id'

theorem takeSign_of_isDigit {c : Char} (hc : c.isDigit = true) (rest : List Char) :
    takeSign (c :: rest) = (false, c :: rest) :=
  takeSign_of_decimalDigit? (decimalDigit?_of_isDigit hc) rest

theorem takeSign_of_ne {s : List Char} (hminus : s.head? ≠ some '-') (hplus : s.head? ≠ some '+') :
    takeSign s = (false, s) := by
  rw [takeSign]
  · rintro rest rfl
    exact hminus rfl
  · rintro rest rfl
    exact hplus rfl

/-- The bodies that are cleaned to a decimal text. -/
theorem cleanBody?_eq_decimalText_iff {s : List Char} {negative : Bool} {k : Nat} :
    cleanBody? s = some (decimalText negative k) ↔
      if negative then SpellsMinusInside s k else SpellsWhole s k := by
  cases negative with
  | true => exact cleanBody?_eq_minus_iff
  | false => exact cleanBody?_eq_toDigits_iff

/-- **The texts that are cleaned to a decimal text**. -/
theorem spellsPlain_iff_clean? {s : List Char} {n : Int} :
    SpellsPlain s n ↔
      ∃ negative k, clean? s = some (decimalText negative k) ∧ signed negative k = n := by
  constructor
  · intro h
    cases h with
    | unsigned h =>
      obtain ⟨c, rest, rfl, hc⟩ := h.exists_eq_cons
      rw [clean?_of_takeSign (takeSign_of_isDigit hc rest)]
      exact ⟨false, _, cleanBody?_eq_toDigits_iff.mpr h, rfl⟩
    | plus h =>
      exact ⟨false, _, (clean?_of_takeSign rfl).trans (cleanBody?_eq_toDigits_iff.mpr h), rfl⟩
    | minus h =>
      rw [clean?_minus, cleanBody?_eq_toDigits_iff.mpr h]
      exact ⟨true, _, rfl, rfl⟩
    | inside h =>
      obtain ⟨c, rest, rfl, hc⟩ := h.exists_eq_cons
      rw [clean?_of_takeSign (takeSign_of_isDigit hc rest)]
      exact ⟨true, _, cleanBody?_eq_minus_iff.mpr h, rfl⟩
    | plusInside h =>
      exact ⟨true, _, (clean?_of_takeSign rfl).trans (cleanBody?_eq_minus_iff.mpr h), rfl⟩
  · rintro ⟨negative, k, hclean, rfl⟩
    by_cases hminus : s.head? = some '-'
    · -- The sign in front is the only one: behind another, no decimal text is left.
      obtain ⟨body, rfl⟩ := List.head?_eq_some_iff.mp hminus
      rw [clean?_minus, Option.map_eq_some_iff] at hclean
      obtain ⟨cleaned, hbody, htext⟩ := hclean
      cases negative with
      | true =>
        rw [(List.cons.inj htext).2] at hbody
        exact .minus (cleanBody?_eq_toDigits_iff.mp hbody)
      | false => exact absurd htext.symm (toDigits_ne_minus_cons k cleaned)
    · by_cases hplus : s.head? = some '+'
      · obtain ⟨body, rfl⟩ := List.head?_eq_some_iff.mp hplus
        rw [clean?_of_takeSign rfl, cleanBody?_eq_decimalText_iff] at hclean
        cases negative with
        | true => exact .plusInside hclean
        | false => exact .plus hclean
      · rw [clean?_of_takeSign (takeSign_of_ne hminus hplus),
          cleanBody?_eq_decimalText_iff] at hclean
        cases negative with
        | true => exact .inside hclean
        | false => exact .unsigned hclean

theorem decimalText_injective {negative other : Bool} {j k : Nat}
    (h : decimalText negative j = decimalText other k) : signed negative j = signed other k := by
  have hparts := congrArg takeMinus h
  rw [takeMinus_decimalText, takeMinus_decimalText] at hparts
  obtain ⟨rfl, hdigits⟩ := Prod.mk.inj hparts
  have hnumber : j = k :=
    calc j = Nat.ofDigitChars 10 (Nat.toDigits 10 j) 0 := Nat.ofDigitChars_ten_toDigits.symm
      _ = Nat.ofDigitChars 10 (Nat.toDigits 10 k) 0 := by rw [hdigits]
      _ = k := Nat.ofDigitChars_ten_toDigits
  rw [hnumber]

theorem SpellsPlain.unique {s : List Char} {m n : Int} (hm : SpellsPlain s m)
    (hn : SpellsPlain s n) : m = n := by
  obtain ⟨negative, j, hj, rfl⟩ := spellsPlain_iff_clean?.mp hm
  obtain ⟨other, k, hk, rfl⟩ := spellsPlain_iff_clean?.mp hn
  exact decimalText_injective (Option.some.inj (hj.symm.trans hk))

/-! ### White space -/

/-- A spelling ends with a digit: the last one of the run, or of the fraction. -/
theorem exists_append_fraction_eq {run fraction : List Char} {n : Nat} (hrun : SpellsRun run n)
    (hfraction : IsZeroFraction fraction) (pre : List Char) :
    ∃ before c, pre ++ run ++ fraction = before ++ [c] ∧ c.isDigit = true := by
  cases hfraction with
  | none =>
    obtain ⟨before, c, rfl, hc⟩ := hrun.exists_eq_concat
    exact ⟨pre ++ before, c, by simp, hc⟩
  | zeros k =>
    refine ⟨pre ++ run ++ '.' :: List.replicate k '0', '0', ?_, by decide⟩
    rw [List.replicate_succ']
    simp

theorem SpellsWhole.exists_eq_concat {s : List Char} {n : Nat} (h : SpellsWhole s n) :
    ∃ before c, s = before ++ [c] ∧ c.isDigit = true := by
  cases h with
  | mk hleading hrun hfraction => exact exists_append_fraction_eq hrun hfraction _

theorem SpellsMinusInside.exists_eq_concat {s : List Char} {n : Nat}
    (h : SpellsMinusInside s n) : ∃ before c, s = before ++ [c] ∧ c.isDigit = true := by
  cases h with
  | @mk leading gap run fraction n hleading hne hgap hrun hbare hfraction =>
    obtain ⟨before, c, heq, hc⟩ := exists_append_fraction_eq hrun hfraction (leading ++ '-' :: gap)
    refine ⟨before, c, ?_, hc⟩
    rw [← heq]
    simp

/-- What begins with a digit, or with a sign before anything, and ends with a digit has no white
space at its ends. -/
theorem isBlank_ends {s : List Char}
    (hfirst : ∃ c rest, s = c :: rest ∧ (c.isDigit = true ∨ c = '+' ∨ c = '-'))
    (hlast : ∃ before c, s = before ++ [c] ∧ c.isDigit = true) :
    s ≠ [] ∧ (∀ c ∈ s.head?, Text.isBlank c = false) ∧
      ∀ c ∈ s.getLast?, Text.isBlank c = false := by
  have hdigit {c : Char} (hc : c.isDigit = true) : Text.isBlank c = false :=
    isBlank_of_decimalDigit? (decimalDigit?_of_isDigit hc)
  refine ⟨?_, ?_, ?_⟩
  · obtain ⟨c, rest, rfl, -⟩ := hfirst
    exact List.cons_ne_nil _ _
  · obtain ⟨c, rest, rfl, hc⟩ := hfirst
    intro d hd
    obtain rfl := Option.some.inj hd
    rcases hc with hc | rfl | rfl
    · exact hdigit hc
    · decide
    · decide
  · obtain ⟨before, c, rfl, hc⟩ := hlast
    intro d hd
    rw [List.getLast?_concat] at hd
    obtain rfl := Option.some.inj hd
    exact hdigit hc

theorem SpellsPlain.isBlank {s : List Char} {n : Int} (h : SpellsPlain s n) :
    s ≠ [] ∧ (∀ c ∈ s.head?, Text.isBlank c = false) ∧
      ∀ c ∈ s.getLast?, Text.isBlank c = false := by
  have hcons (sign : Char) {s : List Char} (h : ∃ before c, s = before ++ [c] ∧ c.isDigit = true) :
      ∃ before c, sign :: s = before ++ [c] ∧ c.isDigit = true := by
    obtain ⟨before, c, rfl, hc⟩ := h
    exact ⟨sign :: before, c, rfl, hc⟩
  have hdigit {s : List Char} (h : ∃ c rest, s = c :: rest ∧ c.isDigit = true) :
      ∃ c rest, s = c :: rest ∧ (c.isDigit = true ∨ c = '+' ∨ c = '-') := by
    obtain ⟨c, rest, rfl, hc⟩ := h
    exact ⟨c, rest, rfl, .inl hc⟩
  cases h with
  | unsigned h => exact isBlank_ends (hdigit h.exists_eq_cons) h.exists_eq_concat
  | inside h => exact isBlank_ends (hdigit h.exists_eq_cons) h.exists_eq_concat
  | plus h => exact isBlank_ends ⟨_, _, rfl, .inr (.inl rfl)⟩ (hcons '+' h.exists_eq_concat)
  | minus h => exact isBlank_ends ⟨_, _, rfl, .inr (.inr rfl)⟩ (hcons '-' h.exists_eq_concat)
  | plusInside h => exact isBlank_ends ⟨_, _, rfl, .inr (.inl rfl)⟩ (hcons '+' h.exists_eq_concat)

theorem denotesPlain_iff_spellsPlain_trim {s : List Char} {n : Int} :
    DenotesPlain s n ↔ SpellsPlain (trim s) n := by
  constructor
  · rintro ⟨before, body, after, rfl, hbefore, hafter, hbody⟩
    obtain ⟨hne, hfirst, hlast⟩ := hbody.isBlank
    rwa [trim, trimBy_append_append hbefore hafter hne hfirst hlast]
  · intro h
    obtain ⟨before, after, heq, hbefore, hafter⟩ := exists_eq_append_trimBy_append Text.isBlank s
    exact ⟨before, trim s, after, heq, hbefore, hafter, h⟩

/-- **A text denotes one integer at most**. -/
theorem DenotesPlain.unique {s : List Char} {m n : Int} (hm : DenotesPlain s m)
    (hn : DenotesPlain s n) : m = n := by
  rw [denotesPlain_iff_spellsPlain_trim] at hm hn
  exact hm.unique hn

/-- **The texts that are read, and what they are read as**. -/
theorem readPlain_eq_ok_iff {s : List Char} {n : Int} :
    readPlain s = .ok n ↔ DenotesPlain s n ∧ IsShort n := by
  rw [denotesPlain_iff_spellsPlain_trim, spellsPlain_iff_clean?, readPlain]
  cases hclean : clean? (trim s) with
  | none => simp
  | some cleaned =>
    dsimp only
    rw [readDecimal_eq_ok_iff]
    constructor
    · rintro ⟨negative, k, rfl, hn, hshort⟩
      exact ⟨⟨negative, k, rfl, hn⟩, hshort⟩
    · rintro ⟨⟨negative, k, htext, hn⟩, hshort⟩
      exact ⟨negative, k, Option.some.inj htext, hn, hshort⟩

/-! ### Zeros in front -/

/-- A text with zeros put in after its white space and its sign. -/
def withZeros (k : Nat) (s : List Char) : List Char :=
  s.takeWhile isBlank ++
    match s.dropWhile isBlank with
    | '-' :: rest => '-' :: (List.replicate k '0' ++ rest)
    | '+' :: rest => '+' :: (List.replicate k '0' ++ rest)
    | rest => List.replicate k '0' ++ rest

theorem isLeading_zeros (k : Nat) : IsLeading (List.replicate k '0') := by
  refine ⟨fun c hc => .inl (List.eq_of_mem_replicate hc), ?_⟩
  cases k <;> simp [List.replicate_succ]

theorem SpellsWhole.zeros_append {s : List Char} {n : Nat} (h : SpellsWhole s n) (k : Nat) :
    SpellsWhole (List.replicate k '0' ++ s) n := by
  cases h with
  | mk hleading hrun hfraction =>
    rw [← List.append_assoc, ← List.append_assoc]
    exact .mk ((isLeading_zeros k).append hleading) hrun hfraction

theorem SpellsMinusInside.zeros_append {s : List Char} {n : Nat} (h : SpellsMinusInside s n)
    (k : Nat) : SpellsMinusInside (List.replicate k '0' ++ s) n := by
  cases h with
  | mk hleading hne hgap hrun hbare hfraction =>
    rw [← List.append_assoc]
    exact .mk ((isLeading_zeros k).append hleading) (List.append_ne_nil_of_right_ne_nil _ hne) hgap
      hrun hbare hfraction

/-- **Zeros in front do not change what a text denotes**. -/
theorem DenotesPlain.withZeros {s : List Char} {n : Int} (h : DenotesPlain s n) (k : Nat) :
    DenotesPlain (withZeros k s) n := by
  obtain ⟨before, body, after, rfl, hbefore, hafter, hbody⟩ := h
  have hfirst : ∀ c ∈ (body ++ after).head?, Text.isBlank c = false := by
    rw [List.head?_append_of_ne_nil _ hbody.isBlank.1]
    exact hbody.isBlank.2.1
  rw [Numeral.withZeros, List.append_assoc, takeWhile_append_of_head hbefore hfirst,
    dropWhile_append_of_head hbefore hfirst]
  -- Without a sign in front, the zeros stand before everything.
  have hunsigned {body : List Char} (hdigit : ∃ c rest, body = c :: rest ∧ c.isDigit = true)
      (hspelled : SpellsPlain (List.replicate k '0' ++ body) n) :
      DenotesPlain (before ++
        match body ++ after with
        | '-' :: rest => '-' :: (List.replicate k '0' ++ rest)
        | '+' :: rest => '+' :: (List.replicate k '0' ++ rest)
        | rest => List.replicate k '0' ++ rest) n := by
    obtain ⟨c, rest, rfl, hc⟩ := hdigit
    refine ⟨before, List.replicate k '0' ++ c :: rest, after, ?_, hbefore, hafter, hspelled⟩
    rw [List.append_assoc, List.append_assoc]
    congr 1
    split
    · rename_i heq
      obtain ⟨rfl, -⟩ := List.cons.inj heq
      cases hc
    · rename_i heq
      obtain ⟨rfl, -⟩ := List.cons.inj heq
      cases hc
    · rfl
  cases hbody with
  | unsigned h => exact hunsigned h.exists_eq_cons (.unsigned (h.zeros_append k))
  | inside h => exact hunsigned h.exists_eq_cons (.inside (h.zeros_append k))
  | plus h => exact ⟨before, _, after, by simp, hbefore, hafter, .plus (h.zeros_append k)⟩
  | minus h => exact ⟨before, _, after, by simp, hbefore, hafter, .minus (h.zeros_append k)⟩
  | plusInside h =>
    exact ⟨before, _, after, by simp, hbefore, hafter, .plusInside (h.zeros_append k)⟩

end CardHealth.Numeral
