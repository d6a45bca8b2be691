import CardHealth.Numeral
import CardHealth.Proofs.Text.Blank
import Mathlib.Data.Nat.Digits.Defs

/-!
# The grammar of parameters

`Numeral.read` accepts exactly the texts of a grammar, and gives the number that the grammar says:
`read_eq_ok_iff`.  `SpellsDigits` has one rule for each way in which a digit can be followed,
`Spells` adds the sign and the limit on the number of digits, and `Denotes` the white space.

`denotes_render` is the other direction for the plain decimal texts: each of them denotes its
integer.
-/

namespace CardHealth.Numeral

open Text

/-- Decimal digits of any script with these values, and at most one underscore between two of
them. -/
inductive SpellsDigits : List Char → List Nat → Prop where
  | last {c : Char} {d : Nat} (digit : decimalDigit? c = some d) : SpellsDigits [c] [d]
  | next {c : Char} {d : Nat} {s : List Char} {digits : List Nat}
      (digit : decimalDigit? c = some d) (rest : SpellsDigits s digits) :
      SpellsDigits (c :: s) (d :: digits)
  | underscore {c : Char} {d : Nat} {s : List Char} {digits : List Nat}
      (digit : decimalDigit? c = some d) (rest : SpellsDigits s digits) :
      SpellsDigits (c :: '_' :: s) (d :: digits)

/-- An optional sign and not too many digits: the spellings of an integer.  The most significant
digit comes first. -/
inductive Spells : List Char → Int → Prop where
  | unsigned {s : List Char} {digits : List Nat} (spelled : SpellsDigits s digits)
      (short : digits.length ≤ maxDigits) : Spells s (Nat.ofDigits 10 digits.reverse : Nat)
  | plus {s : List Char} {digits : List Nat} (spelled : SpellsDigits s digits)
      (short : digits.length ≤ maxDigits) : Spells ('+' :: s) (Nat.ofDigits 10 digits.reverse : Nat)
  | minus {s : List Char} {digits : List Nat} (spelled : SpellsDigits s digits)
      (short : digits.length ≤ maxDigits) :
      Spells ('-' :: s) (-(Nat.ofDigits 10 digits.reverse : Nat))

/-- A spelling of an integer with white space around it. -/
def Denotes (s : List Char) (n : Int) : Prop :=
  ∃ before body after, s = before ++ body ++ after ∧ (∀ c ∈ before, isBlank c = true) ∧
    (∀ c ∈ after, isBlank c = true) ∧ Spells body n

/-! ### Runs of digits -/

/-- Whether a text consists of runs of digits divided by single underscores. -/
def areRuns (s : List Char) : Bool :=
  (s.splitOnP (· == '_')).all fun run => !run.isEmpty && run.all fun c => (decimalDigit? c).isSome

theorem digits?_eq (s : List Char) :
    digits? decimalDigit? s = if areRuns s then some (s.filterMap decimalDigit?) else none := rfl

theorem decimalDigit?_underscore : decimalDigit? '_' = none := by decide

theorem areRuns_singleton (c : Char) : areRuns [c] = (decimalDigit? c).isSome := by
  by_cases hc : c = '_'
  · subst hc
    decide
  · simp [areRuns, List.splitOnP_cons_eq_if_modifyHead, hc]

theorem areRuns_cons_underscore (c : Char) (s : List Char) :
    areRuns (c :: '_' :: s) = ((decimalDigit? c).isSome && areRuns s) := by
  by_cases hc : c = '_'
  · subst hc
    simp [areRuns, List.splitOnP_cons_eq_if_modifyHead, decimalDigit?_underscore]
  · simp [areRuns, List.splitOnP_cons_eq_if_modifyHead, hc]

theorem areRuns_cons_cons (c : Char) {d : Char} (hd : d ≠ '_') (s : List Char) :
    areRuns (c :: d :: s) = ((decimalDigit? c).isSome && areRuns (d :: s)) := by
  -- The first run of the rest is not empty: it begins with `d`.
  obtain ⟨run, runs, hruns⟩ := List.exists_cons_of_ne_nil (List.splitOnP_ne_nil (· == '_') s)
  by_cases hc : c = '_'
  · subst hc
    simp [areRuns, List.splitOnP_cons_eq_if_modifyHead, decimalDigit?_underscore]
  · simp [areRuns, List.splitOnP_cons_eq_if_modifyHead, hc, hd, hruns, Bool.and_assoc]

theorem spellsDigits_of_areRuns : ∀ {s : List Char}, areRuns s = true →
    SpellsDigits s (s.filterMap decimalDigit?)
  | [], h => by simp [areRuns] at h
  | [c], h => by
    rw [areRuns_singleton] at h
    obtain ⟨d, hd⟩ := Option.isSome_iff_exists.mp h
    rw [List.filterMap_cons_some hd]
    exact .last hd
  | c :: d :: s, h => by
    by_cases hd : d = '_'
    · subst hd
      rw [areRuns_cons_underscore, Bool.and_eq_true] at h
      obtain ⟨n, hn⟩ := Option.isSome_iff_exists.mp h.1
      rw [List.filterMap_cons_some hn, List.filterMap_cons_none decimalDigit?_underscore]
      exact .underscore hn (spellsDigits_of_areRuns h.2)
    · rw [areRuns_cons_cons c hd, Bool.and_eq_true] at h
      obtain ⟨n, hn⟩ := Option.isSome_iff_exists.mp h.1
      rw [List.filterMap_cons_some hn]
      exact .next hn (spellsDigits_of_areRuns h.2)

namespace SpellsDigits

variable {s : List Char} {digits : List Nat}

theorem exists_eq_cons (h : SpellsDigits s digits) :
    ∃ c d rest, s = c :: rest ∧ decimalDigit? c = some d := by
  cases h with
  | last digit => exact ⟨_, _, _, rfl, digit⟩
  | next digit rest => exact ⟨_, _, _, rfl, digit⟩
  | underscore digit rest => exact ⟨_, _, _, rfl, digit⟩

theorem exists_eq_append (h : SpellsDigits s digits) :
    ∃ before c d, s = before ++ [c] ∧ decimalDigit? c = some d := by
  induction h with
  | last digit => exact ⟨[], _, _, rfl, digit⟩
  | next digit rest ih =>
    obtain ⟨before, c, d, rfl, hc⟩ := ih
    exact ⟨_ :: before, c, d, rfl, hc⟩
  | underscore digit rest ih =>
    obtain ⟨before, c, d, rfl, hc⟩ := ih
    exact ⟨_ :: '_' :: before, c, d, rfl, hc⟩

theorem areRuns (h : SpellsDigits s digits) : Numeral.areRuns s = true := by
  induction h with
  | last digit => rw [areRuns_singleton, digit, Option.isSome_some]
  | next digit rest ih =>
    obtain ⟨c, d, t, rfl, hc⟩ := rest.exists_eq_cons
    have hne : c ≠ '_' := by
      rintro rfl
      cases hc
    rw [areRuns_cons_cons _ hne, digit, ih]
    rfl
  | underscore digit rest ih =>
    rw [areRuns_cons_underscore, digit, ih]
    rfl

theorem filterMap_eq (h : SpellsDigits s digits) : s.filterMap decimalDigit? = digits := by
  induction h with
  | last digit => rw [List.filterMap_cons_some digit, List.filterMap_nil]
  | next digit rest ih => rw [List.filterMap_cons_some digit, ih]
  | underscore digit rest ih =>
    rw [List.filterMap_cons_some digit, List.filterMap_cons_none decimalDigit?_underscore, ih]

end SpellsDigits

/-- **Digits are read as their grammar says**. -/
theorem digits?_eq_some_iff {s : List Char} {digits : List Nat} :
    digits? decimalDigit? s = some digits ↔ SpellsDigits s digits := by
  rw [digits?_eq]
  constructor
  · intro h
    split_ifs at h with hruns
    obtain rfl := Option.some.inj h
    exact spellsDigits_of_areRuns hruns
  · intro h
    rw [if_pos h.areRuns, h.filterMap_eq]

/-! ### Signs -/

theorem ofDigits_eq (digits : List Nat) : ofDigits digits = Nat.ofDigits 10 digits.reverse := by
  rw [ofDigits, Nat.ofDigits_eq_foldr, List.foldr_reverse]
  simp [Nat.add_comm]

/-- A digit is no sign. -/
theorem takeSign_of_decimalDigit? {c : Char} {d : Nat} (hc : decimalDigit? c = some d)
    (rest : List Char) : takeSign (c :: rest) = (false, c :: rest) := by
  unfold takeSign
  split
  · rename_i heq
    obtain ⟨rfl, -⟩ := List.cons.inj heq
    cases hc
  · rename_i heq
    obtain ⟨rfl, -⟩ := List.cons.inj heq
    cases hc
  · rfl

/-- The number of a text without white space around it. -/
def readTrimmed (s : List Char) : Except Error Int :=
  let (negative, body) := takeSign s
  match digits? decimalDigit? body with
  | none => .error .malformed
  | some digits =>
    if digits.length > maxDigits then .error (.tooLong digits.length)
    else .ok (signed negative (ofDigits digits))

theorem read_eq (s : List Char) : read s = readTrimmed (trim s) := rfl

theorem readTrimmed_eq_ok_iff {s : List Char} {n : Int} :
    readTrimmed s = .ok n ↔ ∃ digits, SpellsDigits (takeSign s).2 digits ∧
      digits.length ≤ maxDigits ∧ signed (takeSign s).1 (Nat.ofDigits 10 digits.reverse) = n := by
  unfold readTrimmed
  constructor
  · intro h
    dsimp only at h
    split at h
    · cases h
    · rename_i digits hdigits
      split_ifs at h with hlong
      exact ⟨digits, digits?_eq_some_iff.mp hdigits, not_lt.mp hlong,
        (ofDigits_eq digits ▸ Except.ok.inj h)⟩
  · rintro ⟨digits, hdigits, hshort, rfl⟩
    dsimp only
    rw [digits?_eq_some_iff.mpr hdigits]
    dsimp only
    rw [if_neg (not_lt.mpr hshort), ofDigits_eq]

/-- A text is read as an integer exactly if it spells it. -/
theorem readTrimmed_eq_ok_iff_spells {s : List Char} {n : Int} :
    readTrimmed s = .ok n ↔ Spells s n := by
  rw [readTrimmed_eq_ok_iff]
  constructor
  · rintro ⟨digits, hdigits, hshort, rfl⟩
    unfold takeSign at hdigits ⊢
    split at hdigits
    · exact .minus hdigits hshort
    · exact .plus hdigits hshort
    · exact .unsigned hdigits hshort
  · intro h
    cases h with
    | unsigned spelled short =>
      obtain ⟨c, d, rest, rfl, hc⟩ := spelled.exists_eq_cons
      have hsign := takeSign_of_decimalDigit? hc rest
      exact ⟨_, by rwa [hsign], short, by rw [hsign]; rfl⟩
    | plus spelled short => exact ⟨_, spelled, short, rfl⟩
    | minus spelled short => exact ⟨_, spelled, short, rfl⟩

/-! ### White space -/

/-- A spelling begins with a sign or a digit, and it ends with a digit. -/
theorem Spells.isBlank {s : List Char} {n : Int} (h : Spells s n) :
    s ≠ [] ∧ (∀ c ∈ s.head?, Text.isBlank c = false) ∧
      ∀ c ∈ s.getLast?, Text.isBlank c = false := by
  have hlast : ∀ (pre : List Char) {s digits}, SpellsDigits s digits →
      ∀ c ∈ (pre ++ s).getLast?, Text.isBlank c = false := by
    intro pre s digits spelled c hc
    obtain ⟨before, e, d, rfl, he⟩ := spelled.exists_eq_append
    rw [← List.append_assoc, List.getLast?_concat] at hc
    obtain rfl := Option.some.inj hc
    exact isBlank_of_decimalDigit? he
  cases h with
  | unsigned spelled short =>
    refine ⟨?_, fun c hc => ?_, hlast [] spelled⟩
    · obtain ⟨c, d, rest, rfl, -⟩ := spelled.exists_eq_cons
      exact List.cons_ne_nil _ _
    · obtain ⟨e, d, rest, rfl, he⟩ := spelled.exists_eq_cons
      obtain rfl := Option.some.inj hc
      exact isBlank_of_decimalDigit? he
  | plus spelled short =>
    refine ⟨List.cons_ne_nil _ _, fun c hc => ?_, hlast ['+'] spelled⟩
    obtain rfl := Option.some.inj hc
    decide
  | minus spelled short =>
    refine ⟨List.cons_ne_nil _ _, fun c hc => ?_, hlast ['-'] spelled⟩
    obtain rfl := Option.some.inj hc
    decide

theorem denotes_iff_spells_trim {s : List Char} {n : Int} : Denotes s n ↔ Spells (trim s) n := by
  constructor
  · rintro ⟨before, body, after, rfl, hbefore, hafter, hbody⟩
    obtain ⟨hne, hfirst, hlast⟩ := hbody.isBlank
    rwa [trim, trimBy_append_append hbefore hafter hne hfirst hlast]
  · intro h
    obtain ⟨before, after, heq, hbefore, hafter⟩ := exists_eq_append_trimBy_append Text.isBlank s
    exact ⟨before, trim s, after, heq, hbefore, hafter, h⟩

/-- **The texts that are read, and what they are read as**. -/
theorem read_eq_ok_iff {s : List Char} {n : Int} : read s = .ok n ↔ Denotes s n := by
  rw [read_eq, readTrimmed_eq_ok_iff_spells, denotes_iff_spells_trim]

/-! ### Decimal texts -/

theorem decimalDigit?_of_isDigit {c : Char} (h : c.isDigit = true) :
    decimalDigit? c = some (c.toNat - '0'.toNat) := by
  have hrange := Char.isDigit_iff_toNat.mp h
  have hzero : '0'.toNat = 48 := rfl
  have hnine : '9'.toNat = 57 := rfl
  unfold decimalDigit? decimalZeros
  rw [List.find?_cons_of_pos]
  · rfl
  · simp only [Bool.and_eq_true, decide_eq_true_eq]
    omega

theorem spellsDigits_of_isDigit : ∀ {s : List Char}, s ≠ [] → (∀ c ∈ s, c.isDigit = true) →
    SpellsDigits s (s.map fun c => c.toNat - '0'.toNat)
  | [], hne, _ => absurd rfl hne
  | [c], _, h => .last (decimalDigit?_of_isDigit (h c (List.mem_singleton_self c)))
  | c :: d :: s, _, h => by
    obtain ⟨hc, hs⟩ := List.forall_mem_cons.mp h
    exact .next (decimalDigit?_of_isDigit hc) (spellsDigits_of_isDigit (List.cons_ne_nil d s) hs)

theorem ofDigits_toDigits (n : Nat) :
    Nat.ofDigits 10 ((Nat.toDigits 10 n).map fun c => c.toNat - '0'.toNat).reverse = n := by
  rw [← ofDigits_eq, ofDigits, List.foldl_map, ← Nat.ofDigitChars_eq_foldl]
  exact Nat.ofDigitChars_toDigits (by decide) (by decide)

/-- **The decimal text of an integer denotes it**, if it does not have too many digits. -/
theorem denotes_render {n : Int} (h : n.natAbs < 10 ^ maxDigits) : Denotes (render n).toList n := by
  have hspelled : SpellsDigits (Nat.toDigits 10 n.natAbs) _ :=
    spellsDigits_of_isDigit Nat.toDigits_ne_nil fun c hc =>
      Nat.isDigit_of_mem_toDigits (by decide) (by decide) hc
  have hshort : ((Nat.toDigits 10 n.natAbs).map fun c => c.toNat - '0'.toNat).length ≤
      maxDigits := by
    rw [List.length_map]
    exact (Nat.length_toDigits_le_iff (by decide) (by decide)).mpr h
  have hspells : Spells (render n).toList n := by
    unfold render
    split_ifs with hneg
    · have hminus := Spells.minus hspelled hshort
      have hvalue : -(n.natAbs : Int) = n := by omega
      rw [ofDigits_toDigits, hvalue] at hminus
      rw [String.toList_append, Nat.repr_eq_ofList_toDigits, String.toList_ofList,
        String.toList_ofList]
      exact hminus
    · have hplain := Spells.unsigned hspelled hshort
      have hvalue : (n.natAbs : Int) = n := by omega
      rw [ofDigits_toDigits, hvalue] at hplain
      rwa [Nat.repr_eq_ofList_toDigits, String.toList_ofList]
  exact ⟨[], _, [], by simp, by simp, by simp, hspells⟩

end CardHealth.Numeral
