import CardHealth.Json.Reader
import CardHealth.Proofs.Binary64.Decimal

/-!
# Numbers in JSON texts

`SpellsReal` is the grammar of the numbers with a point or an exponent, with what each of them
denotes; every such spelling is read as the nearest double (`readBody?_of_spellsReal`).  A layout
writes the digits of a double in one of these spellings (`exists_spellsReal_renderDigits`), so that
a finite double is read back from its text, and so is an integer of any size.

`IsWord` collects what is needed of the texts without quotes: numbers and the words for constants.
-/

namespace CardHealth.Json

open Numeral Text

/-! ### The grammar -/

/-- The exponent at the end of a number, and the empty text for none. -/
inductive SpellsExponent : List Char → Int → Prop where
  | absent : SpellsExponent [] 0
  | present {sign : Char} {digits : List Char} (sign_eq : sign = '+' ∨ sign = '-')
      (ne_nil : digits ≠ []) (areDigits : AreDigits digits) :
      SpellsExponent ('e' :: sign :: digits)
        (signed (sign == '-') (Nat.ofDigitChars 10 digits 0))

/-- The unsigned numbers with a point or an exponent: the text, its digits as a whole number, and
the exponent that the point has made smaller. -/
inductive SpellsReal : List Char → Nat → Int → Prop where
  | pointed {whole fraction tail : List Char} {x : Int} (isWhole : isWhole whole = true)
      (ne_nil : fraction ≠ []) (areDigits : AreDigits fraction) (exponent : SpellsExponent tail x) :
      SpellsReal (whole ++ '.' :: (fraction ++ tail))
        (Nat.ofDigitChars 10 (whole ++ fraction) 0) (x - fraction.length)
  | scaled {whole tail : List Char} {x : Int} (isWhole : isWhole whole = true)
      (ne_nil : tail ≠ []) (exponent : SpellsExponent tail x) :
      SpellsReal (whole ++ tail) (Nat.ofDigitChars 10 whole 0) x

theorem isDigits_iff (s : List Char) : isDigits s = true ↔ s ≠ [] ∧ AreDigits s := by
  simp [isDigits, AreDigits]

theorem isWhole_iff (s : List Char) :
    isWhole s = true ↔ (s ≠ [] ∧ AreDigits s) ∧ (s.length = 1 ∨ s.head? ≠ some '0') := by
  simp [isWhole, isDigits_iff]

theorem isWhole_toDigits (n : Nat) : isWhole (Nat.toDigits 10 n) = true := by
  rw [isWhole_iff]
  refine ⟨⟨Nat.toDigits_ne_nil, areDigits_toDigits n⟩, ?_⟩
  rcases Nat.eq_zero_or_pos n with rfl | hpos
  · exact .inl rfl
  · exact .inr (head?_toDigits_ne hpos)

/-! ### Reading -/

/-- Reads the characters of a number after its sign. -/
def readBody? (negative : Bool) (body : List Char) : Option Json :=
  let isMark (c : Char) : Bool := c == '.' || c == 'e' || c == 'E'
  let whole := body.takeWhile fun c => !isMark c
  let rest := body.dropWhile fun c => !isMark c
  if !isWhole whole then none
  else
    match rest with
    | [] => some (.int (signed negative (ofDigits (whole.filterMap asciiDigit?))))
    | '.' :: fraction =>
      let digits := fraction.takeWhile fun c => !isMark c
      if isDigits digits then (Decimal.readUnsigned? negative body).map (.float ·.toBinary64)
      else none
    | _ => (Decimal.readUnsigned? negative body).map (.float ·.toBinary64)

/-- A number with its sign. -/
def signedText (negative : Bool) (body : List Char) : List Char :=
  if negative then '-' :: body else body

theorem readNumber?_signedText (negative : Bool) {body : List Char}
    (h : ∃ c ∈ body.head?, c.isDigit = true) :
    readNumber? (signedText negative body) = readBody? negative body := by
  cases negative with
  | true => rfl
  | false =>
    show readNumber? body = _
    unfold readNumber?
    split
    rename_i hsign
    split at hsign
    · obtain ⟨_, ⟨⟩, hc⟩ := h
      exact absurd hc (by decide)
    · obtain ⟨rfl, rfl⟩ := Prod.mk.inj hsign
      rfl

theorem isMark_of_isDigit {c : Char} (h : c.isDigit = true) :
    (c == '.' || c == 'e' || c == 'E') = false := by
  rw [Bool.eq_false_iff]
  intro hmark
  simp only [Bool.or_eq_true, beq_iff_eq] at hmark
  rcases hmark with (rfl | rfl) | rfl
  · exact absurd h (by decide)
  · exact absurd h (by decide)
  · exact absurd h (by decide)

variable {whole fraction tail : List Char} {x : Int}

theorem SpellsExponent.head (h : SpellsExponent tail x) : ∀ c ∈ tail.head?, c = 'e' := by
  cases h with
  | absent => simp
  | present => simp

theorem SpellsExponent.readExponent? (h : SpellsExponent tail x) :
    Decimal.readExponent? tail = some x := by
  cases h with
  | absent => rfl
  | @present sign digits hsign hne hdigits =>
    have hread : takeSign (sign :: digits) = (sign == '-', digits) := by
      rcases hsign with rfl | rfl
      · rfl
      · rfl
    have hall : (!digits.isEmpty && digits.all fun c => (asciiDigit? c).isSome) = true := by
      simpa using ⟨hne, hdigits⟩
    rw [Decimal.readExponent?, if_pos (by decide), hread]
    dsimp only
    rw [if_pos hall, ofDigits_filterMap hdigits]

theorem SpellsExponent.isDigit_head (h : SpellsExponent tail x) :
    ∀ c ∈ tail.head?, c.isDigit = false := by
  intro c hc
  rw [h.head c hc]
  decide

theorem readUnsigned?_pointed (hwhole : AreDigits whole) (hfraction : AreDigits fraction)
    (hne : fraction ≠ []) (htail : SpellsExponent tail x) (negative : Bool) :
    Decimal.readUnsigned? negative (whole ++ '.' :: (fraction ++ tail)) =
      some ⟨negative, Nat.ofDigitChars 10 (whole ++ fraction) 0, x - fraction.length⟩ := by
  have hpoint : ∀ c ∈ ('.' :: (fraction ++ tail)).head?, c.isDigit = false := by
    rintro _ ⟨⟩
    decide
  have hsome : ¬ (whole.isEmpty && fraction.isEmpty) = true := by simp [hne]
  unfold Decimal.readUnsigned?
  simp only [takeWhile_digits hwhole hpoint, dropWhile_digits hwhole hpoint,
    takeWhile_digits hfraction htail.isDigit_head, dropWhile_digits hfraction htail.isDigit_head,
    htail.readExponent?, Option.bind_eq_bind, Option.bind_some, if_neg hsome,
    ofDigits_filterMap (hwhole.append hfraction)]

theorem readUnsigned?_scaled (hwhole : AreDigits whole) (hne : whole ≠ [])
    (htail : SpellsExponent tail x) (negative : Bool) :
    Decimal.readUnsigned? negative (whole ++ tail) =
      some ⟨negative, Nat.ofDigitChars 10 whole 0, x⟩ := by
  have htake := takeWhile_digits hwhole htail.isDigit_head
  have hdrop := dropWhile_digits hwhole htail.isDigit_head
  have hexponent := htail.readExponent?
  have hsome : ¬ (whole.isEmpty && ([] : List Char).isEmpty) = true := by simp [hne]
  unfold Decimal.readUnsigned?
  -- what follows the digits is no point
  simp only [htake, hdrop]
  cases htail with
  | absent => simp [hexponent, hne, ofDigits_filterMap hwhole]
  | present => simp [hexponent, hne, ofDigits_filterMap hwhole]

theorem not_isMark (hs : AreDigits whole) :
    ∀ c ∈ whole, (!(c == '.' || c == 'e' || c == 'E')) = true := by
  intro c hc
  rw [isMark_of_isDigit (hs c hc), Bool.not_false]

theorem SpellsExponent.isMark_head (h : SpellsExponent tail x) :
    ∀ c ∈ tail.head?, (!(c == '.' || c == 'e' || c == 'E')) = false := by
  intro c hc
  rw [h.head c hc]
  decide

/-- **A number with a point or an exponent is read as the nearest double**. -/
theorem readBody?_of_spellsReal {s : List Char} {digits : Nat} (h : SpellsReal s digits x)
    (negative : Bool) :
    readBody? negative s = some (.float (Decimal.toBinary64 ⟨negative, digits, x⟩)) := by
  cases h with
  | pointed isWhole ne_nil areDigits exponent =>
    rename_i whole fraction tail x
    have hwhole := ((isWhole_iff whole).mp isWhole).1.2
    have hpoint : ∀ c ∈ ('.' :: (fraction ++ tail)).head?,
        (!(c == '.' || c == 'e' || c == 'E')) = false := by
      rintro _ ⟨⟩
      decide
    unfold readBody?
    simp only [takeWhile_append_of_head (not_isMark hwhole) hpoint,
      dropWhile_append_of_head (not_isMark hwhole) hpoint, isWhole, Bool.not_true,
      Bool.false_eq_true, if_false,
      takeWhile_append_of_head (not_isMark areDigits) exponent.isMark_head,
      (isDigits_iff fraction).mpr ⟨ne_nil, areDigits⟩, if_true,
      readUnsigned?_pointed hwhole areDigits ne_nil exponent, Option.map_some]
  | scaled isWhole ne_nil exponent =>
    rename_i whole tail
    obtain ⟨⟨hne, hwhole⟩, -⟩ := (isWhole_iff whole).mp isWhole
    have htake := takeWhile_append_of_head (not_isMark hwhole) exponent.isMark_head
    have hdrop := dropWhile_append_of_head (not_isMark hwhole) exponent.isMark_head
    have hread := readUnsigned?_scaled hwhole hne exponent negative
    unfold readBody?
    cases exponent with
    | absent => exact absurd rfl ne_nil
    | present =>
      simp only [htake, hdrop, hread, isWhole]
      rfl

/-! ### Integers -/

theorem readBody?_toDigits (negative : Bool) (n : Nat) :
    readBody? negative (Nat.toDigits 10 n) = some (.int (signed negative n)) := by
  have hmark := not_isMark (areDigits_toDigits n)
  unfold readBody?
  simp only [List.takeWhile_eq_self_iff.mpr hmark, List.dropWhile_eq_nil_iff.mpr hmark,
    isWhole_toDigits, ofDigits_filterMap (areDigits_toDigits n), Nat.ofDigitChars_ten_toDigits]
  rfl

/-! ### Written doubles -/

variable {d : DecimalDigits}

theorem ofDigitChars_zeros_append (k : Nat) (s : List Char) :
    Nat.ofDigitChars 10 (FloatLayout.zeros k ++ s) 0 = Nat.ofDigitChars 10 s 0 := by
  rw [ofDigitChars_append, FloatLayout.zeros, ofDigitChars_zeros, Nat.mul_zero, Nat.zero_add]

theorem ofDigitChars_append_zeros (s : List Char) (k : Nat) :
    Nat.ofDigitChars 10 (s ++ FloatLayout.zeros k) 0 = 10 ^ k * Nat.ofDigitChars 10 s 0 := by
  rw [ofDigitChars_append, FloatLayout.zeros, ofDigitChars_zeros, List.length_replicate,
    Nat.add_zero]

/-- Digits after the point and zeros behind it. -/
theorem exists_spellsReal_zeros_append (hd : d.WellFormed) (hpoint : d.point ≤ 0) :
    ∃ n x, SpellsReal ('0' :: '.' :: (FloatLayout.zeros (-d.point).toNat ++ d.digits)) n x ∧
      (n : ℚ) * 10 ^ x = d.value := by
  obtain ⟨k, hk⟩ := Int.eq_ofNat_of_zero_le (show 0 ≤ -d.point by omega)
  have hspells : SpellsReal (['0'] ++ '.' :: (FloatLayout.zeros k ++ d.digits ++ [])) _ _ :=
    .pointed (by decide) (by simp [hd.ne_nil]) ((areDigits_zeros k).append hd.areDigits) .absent
  have hvalue : Nat.ofDigitChars 10 (['0'] ++ (FloatLayout.zeros k ++ d.digits)) 0 =
      Nat.ofDigitChars 10 d.digits 0 := by
    rw [ofDigitChars_append, ofDigitChars_zeros_append, Nat.add_eq_right]
    exact Nat.mul_zero _
  have hexponent : (0 : Int) - (FloatLayout.zeros k ++ d.digits).length =
      d.point - d.digits.length := by
    rw [List.length_append, FloatLayout.zeros, List.length_replicate]
    omega
  rw [hvalue, hexponent, List.append_nil] at hspells
  rw [hk, Int.toNat_natCast]
  exact ⟨_, _, hspells, rfl⟩

/-- Digits before the point and zeros in front of it. -/
theorem exists_spellsReal_append_zeros (hd : d.WellFormed) {k : Nat}
    (hpoint : d.point = d.digits.length + k) :
    ∃ n x, SpellsReal (d.digits ++ FloatLayout.zeros k ++ ['.', '0']) n x ∧
      (n : ℚ) * 10 ^ x = d.value := by
  have hwhole : isWhole (d.digits ++ FloatLayout.zeros k) = true := by
    rw [isWhole_iff, List.head?_append_of_ne_nil _ hd.ne_nil]
    exact ⟨⟨by simp [hd.ne_nil], hd.areDigits.append (areDigits_zeros k)⟩, .inr hd.head_ne⟩
  have hspells :
      SpellsReal (d.digits ++ FloatLayout.zeros k ++ '.' :: (FloatLayout.zeros 1 ++ [])) _ _ :=
    .pointed hwhole (by decide) (areDigits_zeros 1) .absent
  have hvalue : Nat.ofDigitChars 10 (d.digits ++ FloatLayout.zeros k ++ FloatLayout.zeros 1) 0 =
      10 ^ 1 * (10 ^ k * Nat.ofDigitChars 10 d.digits 0) := by
    rw [ofDigitChars_append_zeros, ofDigitChars_append_zeros]
  have hexponent : d.point - d.digits.length = k := by omega
  have hplace : (0 : Int) - (FloatLayout.zeros 1).length = -1 := rfl
  rw [hvalue] at hspells
  refine ⟨_, _, hspells, ?_⟩
  rw [DecimalDigits.value, hexponent, hplace, zpow_natCast, zpow_neg_one]
  push_cast
  ring

/-- Digits on both sides of the point. -/
theorem exists_spellsReal_take_drop (hd : d.WellFormed) {k : Nat} (hk : d.point = k) (hpos : 0 < k)
    (hlt : k < d.digits.length) :
    ∃ n x, SpellsReal (d.digits.take k ++ '.' :: d.digits.drop k) n x ∧
      (n : ℚ) * 10 ^ x = d.value := by
  have hwhole : isWhole (d.digits.take k) = true := by
    rw [isWhole_iff, List.head?_take, if_neg (by omega)]
    refine ⟨⟨?_, fun c hc => hd.areDigits c (List.mem_of_mem_take hc)⟩, .inr hd.head_ne⟩
    rw [Ne, List.take_eq_nil_iff, not_or]
    exact ⟨by omega, hd.ne_nil⟩
  have hspells : SpellsReal (d.digits.take k ++ '.' :: (d.digits.drop k ++ [])) _ _ :=
    .pointed hwhole (by rw [Ne, List.drop_eq_nil_iff]; omega)
      (fun c hc => hd.areDigits c (List.mem_of_mem_drop hc)) .absent
  have hexponent : (0 : Int) - (d.digits.drop k).length = d.point - d.digits.length := by
    rw [List.length_drop]
    omega
  rw [List.take_append_drop, hexponent, List.append_nil] at hspells
  exact ⟨_, _, hspells, rfl⟩

/-- Digits that are written without an exponent. -/
theorem exists_spellsReal_positional (hd : d.WellFormed) :
    ∃ n x, SpellsReal (FloatLayout.positional d) n x ∧ (n : ℚ) * 10 ^ x = d.value := by
  unfold FloatLayout.positional
  dsimp only
  split_ifs with hpoint hlong
  · exact exists_spellsReal_zeros_append hd hpoint
  · exact exists_spellsReal_append_zeros hd (by omega)
  · exact exists_spellsReal_take_drop hd (by omega) (by omega) (by omega)

/-- The exponent of a number as it is written. -/
theorem spellsExponent_padded (width : Nat) (e : Int) :
    SpellsExponent ('e' :: (if e < 0 then '-' else '+') :: padded width e.natAbs) e := by
  have hsign : (if e < 0 then '-' else '+') = '+' ∨ (if e < 0 then '-' else '+') = '-' := by
    split_ifs
    · exact .inr rfl
    · exact .inl rfl
  have hsigned : signed ((if e < 0 then '-' else '+') == '-') e.natAbs = e := by
    split_ifs with hneg
    · show -(e.natAbs : Int) = e
      omega
    · show (e.natAbs : Int) = e
      omega
  have hpresent := SpellsExponent.present hsign (ne_nil_padded width e.natAbs)
    (areDigits_padded _ _)
  rwa [ofDigitChars_padded, hsigned] at hpresent

theorem isWhole_singleton {c : Char} (hc : c.isDigit = true) : isWhole [c] = true := by
  rw [isWhole_iff]
  exact ⟨⟨List.cons_ne_nil _ _, List.forall_mem_singleton.mpr hc⟩, .inl rfl⟩

/-- One digit with an exponent, with or without a zero after the point. -/
theorem exists_spellsReal_digit {c : Char} (hc : d.digits = [c]) (hd : d.WellFormed)
    (htail : SpellsExponent tail (d.point - 1)) (hne : tail ≠ []) (pointed : Bool) :
    ∃ n x, SpellsReal ((if pointed then [c, '.', '0'] else [c]) ++ tail) n x ∧
      (n : ℚ) * 10 ^ x = d.value := by
  have hdigits := hd.areDigits
  rw [hc] at hdigits
  have hwhole := isWhole_singleton (hdigits c List.mem_cons_self)
  rw [DecimalDigits.value, hc]
  cases pointed with
  | false => exact ⟨_, _, .scaled hwhole hne htail, rfl⟩
  | true =>
    have hspells : SpellsReal ([c] ++ '.' :: (FloatLayout.zeros 1 ++ tail)) _ _ :=
      .pointed hwhole (by decide) (areDigits_zeros 1) htail
    have hplace : d.point - 1 - ((FloatLayout.zeros 1).length : Int) =
        d.point - ([c].length : Int) + -1 := by
      show d.point - 1 - 1 = d.point - 1 + -1
      omega
    rw [ofDigitChars_append_zeros] at hspells
    refine ⟨_, _, hspells, ?_⟩
    rw [hplace, zpow_add₀ (by norm_num), zpow_neg_one]
    push_cast
    ring

/-- Digits with the point after the first one, and an exponent. -/
theorem exists_spellsReal_digits {c e : Char} {rest : List Char} (hc : d.digits = c :: e :: rest)
    (hd : d.WellFormed) (htail : SpellsExponent tail (d.point - 1)) :
    ∃ n x, SpellsReal (c :: '.' :: e :: rest ++ tail) n x ∧ (n : ℚ) * 10 ^ x = d.value := by
  have hdigits := hd.areDigits
  rw [hc] at hdigits
  obtain ⟨hfirst, hrest⟩ := List.forall_mem_cons.mp hdigits
  have hspells : SpellsReal ([c] ++ '.' :: (e :: rest ++ tail)) _ _ :=
    .pointed (isWhole_singleton hfirst) (List.cons_ne_nil e rest) hrest htail
  have hplace : d.point - 1 - ((e :: rest).length : Int) =
      d.point - ((c :: e :: rest).length : Int) := by
    simp only [List.length_cons]
    omega
  rw [hplace] at hspells
  rw [DecimalDigits.value, hc]
  exact ⟨_, _, hspells, rfl⟩

/-- Digits that are written with an exponent. -/
theorem exists_spellsReal_exponential (layout : FloatLayout) (hd : d.WellFormed) :
    ∃ n x, SpellsReal (layout.exponential d) n x ∧ (n : ℚ) * 10 ^ x = d.value := by
  have htail := spellsExponent_padded layout.exponentWidth (d.point - 1)
  unfold FloatLayout.exponential
  rcases hdigits : d.digits with _ | ⟨c, _ | ⟨e, rest⟩⟩
  · exact absurd hdigits hd.ne_nil
  · exact exists_spellsReal_digit hdigits hd htail (List.cons_ne_nil _ _) layout.pointedDigit
  · exact exists_spellsReal_digits hdigits hd htail

/-- **The digits of a double are written as a number with a point or an exponent**, whatever the
layout. -/
theorem exists_spellsReal_renderDigits (layout : FloatLayout) (hd : d.WellFormed) :
    ∃ n x, SpellsReal (layout.renderDigits d) n x ∧ (n : ℚ) * 10 ^ x = d.value := by
  unfold FloatLayout.renderDigits
  split_ifs
  · exact exists_spellsReal_positional hd
  · exact exists_spellsReal_exponential layout hd

theorem exists_head_append {s : List Char} (hs : s ≠ []) (hdigits : AreDigits s)
    (rest : List Char) : ∃ c ∈ (s ++ rest).head?, c.isDigit = true := by
  obtain ⟨c, s, rfl⟩ := List.exists_cons_of_ne_nil hs
  exact ⟨c, rfl, hdigits c List.mem_cons_self⟩

theorem SpellsReal.exists_head {s : List Char} {n : Nat} (h : SpellsReal s n x) :
    ∃ c ∈ s.head?, c.isDigit = true := by
  cases h with
  | pointed isWhole =>
    obtain ⟨⟨hne, hdigits⟩, -⟩ := (isWhole_iff _).mp isWhole
    exact exists_head_append hne hdigits _
  | scaled isWhole =>
    obtain ⟨⟨hne, hdigits⟩, -⟩ := (isWhole_iff _).mp isWhole
    exact exists_head_append hne hdigits _

theorem isTokenChar_of_isDigit {c : Char} (h : c.isDigit = true) : isTokenChar c = true := by
  simp [isTokenChar, Char.isAlphanum, h]

theorem SpellsExponent.isTokenChar (h : SpellsExponent tail x) :
    ∀ c ∈ tail, Json.isTokenChar c = true := by
  cases h with
  | absent => simp
  | @present sign digits sign_eq _ areDigits =>
    have hsign : Json.isTokenChar sign = true := by
      rcases sign_eq with rfl | rfl
      · decide
      · decide
    have hdigits : ∀ c ∈ digits, Json.isTokenChar c = true :=
      fun c hc => isTokenChar_of_isDigit (areDigits c hc)
    exact List.forall_mem_cons.mpr ⟨by decide, List.forall_mem_cons.mpr ⟨hsign, hdigits⟩⟩

theorem SpellsReal.isTokenChar {s : List Char} {n : Nat} (h : SpellsReal s n x) :
    ∀ c ∈ s, Json.isTokenChar c = true := by
  have hdigits : ∀ {s : List Char}, AreDigits s → ∀ c ∈ s, Json.isTokenChar c = true :=
    fun hs c hc => isTokenChar_of_isDigit (hs c hc)
  cases h with
  | pointed isWhole ne_nil areDigits exponent =>
    have hwhole := ((isWhole_iff _).mp isWhole).1.2
    exact List.forall_mem_append.mpr ⟨hdigits hwhole, List.forall_mem_cons.mpr ⟨by decide,
      List.forall_mem_append.mpr ⟨hdigits areDigits, exponent.isTokenChar⟩⟩⟩
  | scaled isWhole ne_nil exponent =>
    have hwhole := ((isWhole_iff _).mp isWhole).1.2
    exact List.forall_mem_append.mpr ⟨hdigits hwhole, exponent.isTokenChar⟩

/-! ### Words -/

/-- The text of a value without quotes and brackets, and that value. -/
structure IsWord (s : List Char) (value : Json) : Prop where
  ne_nil : s ≠ []
  isTokenChar : ∀ c ∈ s, isTokenChar c = true
  readWord : readWord? s = some value

theorem isWord_null : IsWord "null".toList .null :=
  ⟨by decide, List.all_eq_true.mp (by decide), rfl⟩

theorem isWord_bool (b : Bool) : IsWord (render (.bool b)).toList (.bool b) := by
  cases b with
  | true => exact ⟨by decide, List.all_eq_true.mp (by decide), rfl⟩
  | false => exact ⟨by decide, List.all_eq_true.mp (by decide), rfl⟩

/-- A number is told from the words for constants by its first character. -/
theorem readWord?_of_head {s : List Char} (h : ∀ c ∈ s.head?, c.isDigit = true ∨ c = '-') :
    readWord? s = readNumber? s := by
  have hword : ∀ c rest, ¬ (c.isDigit = true ∨ c = '-') → ¬ (s == c :: rest) = true := by
    intro c rest hc heq
    rw [eq_of_beq heq] at h
    exact hc (h c rfl)
  have hnull : ¬ (s == "null".toList) = true := hword 'n' "ull".toList (by decide)
  have htrue : ¬ (s == "true".toList) = true := hword 't' "rue".toList (by decide)
  have hfalse : ¬ (s == "false".toList) = true := hword 'f' "alse".toList (by decide)
  rw [readWord?, if_neg hnull, if_neg htrue, if_neg hfalse]

theorem isWord_signedText {negative : Bool} {body : List Char} {value : Json}
    (hhead : ∃ c ∈ body.head?, c.isDigit = true) (hchars : ∀ c ∈ body, isTokenChar c = true)
    (hread : readBody? negative body = some value) :
    IsWord (signedText negative body) value := by
  have hnumber := readNumber?_signedText negative hhead
  rw [hread] at hnumber
  obtain ⟨c, hc, hdigit⟩ := hhead
  cases negative with
  | true =>
    have hword : ∀ c ∈ ('-' :: body).head?, c.isDigit = true ∨ c = '-' := by simp
    exact ⟨List.cons_ne_nil _ _, List.forall_mem_cons.mpr ⟨by decide, hchars⟩,
      (readWord?_of_head hword).trans hnumber⟩
  | false =>
    have hword : ∀ c ∈ body.head?, c.isDigit = true ∨ c = '-' := by
      intro e he
      obtain rfl := Option.mem_unique hc he
      exact .inl hdigit
    exact ⟨List.ne_nil_of_mem (List.mem_of_mem_head? hc), hchars,
      (readWord?_of_head hword).trans hnumber⟩

/-- **An integer of any size is read back** from its text. -/
theorem isWord_int (n : Int) : IsWord (render (.int n)).toList (.int n) := by
  have hdigits := areDigits_toDigits n.natAbs
  have hhead : ∃ c ∈ (Nat.toDigits 10 n.natAbs).head?, c.isDigit = true := by
    have happend := exists_head_append Nat.toDigits_ne_nil hdigits []
    rwa [List.append_nil] at happend
  have hword : ∀ negative, IsWord (signedText negative (Nat.toDigits 10 n.natAbs))
      (.int (signed negative n.natAbs)) := fun negative =>
    isWord_signedText hhead (fun c hc => isTokenChar_of_isDigit (hdigits c hc))
      (readBody?_toDigits negative n.natAbs)
  rw [render, Numeral.render]
  split_ifs with hneg
  · have hvalue : signed true n.natAbs = n := by
      show -(n.natAbs : Int) = n
      omega
    rw [String.toList_append, Nat.toList_repr]
    have htrue := hword true
    rwa [hvalue] at htrue
  · have hvalue : signed false n.natAbs = n := by
      show (n.natAbs : Int) = n
      omega
    rw [Nat.toList_repr]
    have hfalse := hword false
    rwa [hvalue] at hfalse

/-- **A finite double is read back** from its text. -/
theorem isWord_finite {negative : Bool} {units : Nat}
    (h : (Binary64.finite negative units).IsDouble) :
    IsWord (render (.float (.finite negative units))).toList (.float (.finite negative units)) := by
  cases h with
  | finite _ hdvd hlt =>
    rw [render]
    unfold FloatLayout.render FloatLayout.renderWith
    dsimp only
    rcases Nat.eq_zero_or_pos units with rfl | hpos
    · cases negative with
      | true => exact ⟨by decide, List.all_eq_true.mp (by decide), rfl⟩
      | false => exact ⟨by decide, List.all_eq_true.mp (by decide), rfl⟩
    · rw [if_neg (by simpa using hpos.ne'), String.toList_ofList]
      obtain ⟨hwell, hround⟩ := Binary64.shortest_reads_back hpos hdvd
      obtain ⟨n, x, hspells, hvalue⟩ := exists_spellsReal_renderDigits floatLayout hwell
      have hdouble : Decimal.toBinary64 ⟨negative, n, x⟩ = .finite negative units := by
        apply Decimal.toBinary64_eq_finite hpos hlt
        rw [Decimal.magnitude, hvalue]
        exact hround
      have hread := readBody?_of_spellsReal hspells negative
      rw [hdouble] at hread
      exact isWord_signedText hspells.exists_head hspells.isTokenChar hread

end CardHealth.Json
