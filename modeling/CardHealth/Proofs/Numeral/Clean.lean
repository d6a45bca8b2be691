import CardHealth.Proofs.Numeral.Digits
import CardHealth.Proofs.Numeral.Grammar
import Mathlib.Data.Nat.Digits.Lemmas

/-!
# Numerals that can be cleaned

`Numeral.cleanBody?` takes away the zeros in front of a text, a fraction of zeros, and underscores.
What is left is the decimal text of a natural number exactly for the texts of `SpellsWhole`
(`cleanBody?_eq_toDigits_iff`), and that of a negated one exactly for those of `SpellsMinusInside`
(`cleanBody?_eq_minus_iff`).

The three steps are described one by one.  `DropsZeros` says what may follow the zeros in front; a
run of digits is what underscores are removed from (`removeUnderscores_eq_toDigits_iff`).
-/

namespace CardHealth.Numeral

open Text

/-! ### The grammar -/

/-- Zeros and underscores, of which the first is a zero, or nothing. -/
structure IsLeading (s : List Char) : Prop where
  zeros : ∀ c ∈ s, c = '0' ∨ c = '_'
  head : s.head? ≠ some '_'

/-- Nothing, or a decimal point and zeros, at least one. -/
inductive IsZeroFraction : List Char → Prop where
  | none : IsZeroFraction []
  | zeros (k : Nat) : IsZeroFraction ('.' :: List.replicate (k + 1) '0')

/-- ASCII digits with at most single underscores between them, and their number. -/
inductive SpellsRun : List Char → Nat → Prop where
  | mk {run : List Char} {digits : List Nat} (spelled : SpellsDigits run digits)
      (ascii : ∀ c ∈ run, c = '_' ∨ c.isDigit = true) :
      SpellsRun run (Nat.ofDigits 10 digits.reverse)

/-- The spellings of a natural number: a run of digits, before it zeros that may have any
underscores among them, and after it an optional fraction of zeros. -/
inductive SpellsWhole : List Char → Nat → Prop where
  | mk {leading run fraction : List Char} {n : Nat} (zeros : IsLeading leading)
      (spelled : SpellsRun run n) (zero : IsZeroFraction fraction) :
      SpellsWhole (leading ++ run ++ fraction) n

/-- The spellings of a natural number with a minus sign inside: after the zeros in front, and before
a run of digits that begins with a zero only if it is one. -/
inductive SpellsMinusInside : List Char → Nat → Prop where
  | mk {leading gap run fraction : List Char} {n : Nat} (zeros : IsLeading leading)
      (nonempty : leading ≠ []) (single : gap = [] ∨ gap = ['_']) (spelled : SpellsRun run n)
      (bare : run.head? = some '0' → run = ['0']) (zero : IsZeroFraction fraction) :
      SpellsMinusInside (leading ++ '-' :: (gap ++ run ++ fraction)) n

theorem IsLeading.nil : IsLeading [] :=
  ⟨by simp, by simp⟩

theorem IsLeading.append {s t : List Char} (hs : IsLeading s) (ht : IsLeading t) :
    IsLeading (s ++ t) := by
  refine ⟨List.forall_mem_append.mpr ⟨hs.zeros, ht.zeros⟩, ?_⟩
  cases s with
  | nil => exact ht.head
  | cons c s => exact hs.head

theorem IsLeading.of_append {s t : List Char} (h : IsLeading (s ++ t)) : IsLeading s := by
  refine ⟨(List.forall_mem_append.mp h.zeros).1, ?_⟩
  cases s with
  | nil => simp
  | cons c s => exact h.head

theorem IsLeading.zero : IsLeading ['0'] :=
  ⟨by simp, by decide⟩

theorem IsLeading.isLeadingZero {s : List Char} (h : IsLeading s) :
    ∀ c ∈ s, isLeadingZero c = true := by
  intro c hc
  rcases h.zeros c hc with rfl | rfl <;> rfl

theorem isLeadingZero_iff {c : Char} : isLeadingZero c = true ↔ c = '0' ∨ c = '_' := by
  simp [isLeadingZero]

/-! ### Runs of ASCII digits -/

theorem flatten_splitOnP {α : Type} (p : α → Bool) (s : List α) :
    (s.splitOnP p).flatten = s.filter fun a => !p a := by
  induction s with
  | nil => rfl
  | cons a s ih =>
    rw [List.splitOnP_cons_eq_if_modifyHead]
    by_cases ha : p a = true
    · simp [ha, ih]
    · obtain ⟨run, runs, hruns⟩ := List.exists_cons_of_ne_nil (List.splitOnP_ne_nil p s)
      rw [hruns, List.flatten_cons] at ih
      simp [ha, hruns, ih]

/-- When there are digits, and which: no run is empty, and all but the underscores are digits. -/
theorem digits?_eq_some_iff_forall {digit? : Char → Option Nat} {s : List Char}
    {digits : List Nat} :
    digits? digit? s = some digits ↔
      (∀ run ∈ s.splitOnP (· == '_'), run ≠ []) ∧ (∀ c ∈ s, c ≠ '_' → (digit? c).isSome = true) ∧
        s.filterMap digit? = digits := by
  have hall : ((s.splitOnP (· == '_')).all fun run =>
      !run.isEmpty && run.all fun c => (digit? c).isSome) = true ↔
      (∀ run ∈ s.splitOnP (· == '_'), run ≠ []) ∧
        ∀ c ∈ s, c ≠ '_' → (digit? c).isSome = true := by
    have hmem : ∀ c, (∃ run ∈ s.splitOnP (· == '_'), c ∈ run) ↔ c ∈ s ∧ c ≠ '_' := by
      intro c
      rw [← List.mem_flatten, flatten_splitOnP]
      simp
    simp only [List.all_eq_true, Bool.and_eq_true, Bool.not_eq_true', List.isEmpty_eq_false_iff]
    constructor
    · intro h
      refine ⟨fun run hrun => (h run hrun).1, ?_⟩
      intro c hc hne
      obtain ⟨run, hrun, hcrun⟩ := (hmem c).mpr ⟨hc, hne⟩
      exact (h run hrun).2 c hcrun
    · rintro ⟨hne, hdigit⟩ run hrun
      refine ⟨hne run hrun, ?_⟩
      intro c hc
      obtain ⟨hcs, hcne⟩ := (hmem c).mp ⟨run, hrun, hc⟩
      exact hdigit c hcs hcne
  unfold digits?
  dsimp only
  by_cases h : ((s.splitOnP (· == '_')).all fun run =>
      !run.isEmpty && run.all fun c => (digit? c).isSome) = true
  · rw [if_pos h]
    obtain ⟨hruns, hdigit⟩ := hall.mp h
    constructor
    · intro hdigits
      exact ⟨hruns, hdigit, Option.some.inj hdigits⟩
    · rintro ⟨-, -, rfl⟩
      rfl
  · rw [if_neg h]
    rw [hall] at h
    simp only [reduceCtorEq, false_iff]
    rintro ⟨hne, hdigit, -⟩
    exact h ⟨hne, hdigit⟩

theorem asciiDigit?_eq_decimalDigit? {c : Char} (h : c = '_' ∨ c.isDigit = true) :
    asciiDigit? c = decimalDigit? c := by
  rcases h with rfl | h
  · rfl
  · rw [asciiDigit?_of_isDigit h, decimalDigit?_of_isDigit h]

/-- The characters of a run without its underscores. -/
def bareDigits (s : List Char) : List Char :=
  s.filter (· != '_')

theorem mem_bareDigits {s : List Char} {c : Char} : c ∈ bareDigits s ↔ c ∈ s ∧ c ≠ '_' := by
  simp [bareDigits]

theorem bareDigits_cons {c : Char} (hc : c ≠ '_') (s : List Char) :
    bareDigits (c :: s) = c :: bareDigits s := by
  simp [bareDigits, hc]

section Ascii

variable {s : List Char} (ascii : ∀ c ∈ s, c = '_' ∨ c.isDigit = true)

include ascii

theorem areDigits_bareDigits : AreDigits (bareDigits s) := by
  intro c hc
  obtain ⟨hmem, hne⟩ := mem_bareDigits.mp hc
  exact (ascii c hmem).resolve_left hne

theorem ofDigits_filterMap_decimalDigit? :
    ofDigits (s.filterMap decimalDigit?) = Nat.ofDigitChars 10 (bareDigits s) 0 := by
  rw [← ofDigits_filterMap (areDigits_bareDigits ascii), bareDigits, List.filterMap_filter]
  congr 1
  refine List.filterMap_congr fun c hc => ?_
  rw [← asciiDigit?_eq_decimalDigit? (ascii c hc)]
  by_cases hne : c = '_'
  · subst hne
    rfl
  · rw [if_pos (by simpa using hne)]

end Ascii

/-- **A run of digits is read off its characters**: no underscore is at an end or beside another,
and the others are digits. -/
theorem spellsRun_iff {s : List Char} {n : Nat} :
    SpellsRun s n ↔
      (∀ run ∈ s.splitOnP (· == '_'), run ≠ []) ∧ AreDigits (bareDigits s) ∧
        Nat.ofDigitChars 10 (bareDigits s) 0 = n := by
  constructor
  · intro h
    cases h with
    | mk spelled ascii =>
      obtain ⟨hruns, -, rfl⟩ := digits?_eq_some_iff_forall.mp (digits?_eq_some_iff.mpr spelled)
      rw [← ofDigits_eq, ofDigits_filterMap_decimalDigit? ascii]
      exact ⟨hruns, areDigits_bareDigits ascii, rfl⟩
  · rintro ⟨hruns, hdigits, rfl⟩
    have ascii : ∀ c ∈ s, c = '_' ∨ c.isDigit = true := by
      intro c hc
      by_cases hne : c = '_'
      · exact .inl hne
      · exact .inr (hdigits c (mem_bareDigits.mpr ⟨hc, hne⟩))
    have hsome : ∀ c ∈ s, c ≠ '_' → (decimalDigit? c).isSome = true := by
      intro c hc hne
      rw [decimalDigit?_of_isDigit ((ascii c hc).resolve_left hne), Option.isSome_some]
    have spelled := digits?_eq_some_iff.mp (digits?_eq_some_iff_forall.mpr ⟨hruns, hsome, rfl⟩)
    rw [← ofDigits_filterMap_decimalDigit? ascii, ofDigits_eq]
    exact .mk spelled ascii

namespace SpellsRun

variable {s : List Char} {n : Nat}

theorem exists_eq_cons (h : SpellsRun s n) :
    ∃ c rest, s = c :: rest ∧ c.isDigit = true := by
  cases h with
  | mk spelled ascii =>
    obtain ⟨c, d, rest, rfl, hc⟩ := spelled.exists_eq_cons
    refine ⟨c, rest, rfl, (ascii c List.mem_cons_self).resolve_left ?_⟩
    rintro rfl
    cases hc

theorem exists_eq_concat (h : SpellsRun s n) :
    ∃ before c, s = before ++ [c] ∧ c.isDigit = true := by
  cases h with
  | mk spelled ascii =>
    obtain ⟨before, c, d, rfl, hc⟩ := spelled.exists_eq_append
    refine ⟨before, c, rfl, (ascii c (by simp)).resolve_left ?_⟩
    rintro rfl
    cases hc

theorem not_mem_point (h : SpellsRun s n) : '.' ∉ s := by
  intro hmem
  cases h with
  | mk spelled ascii => exact absurd (ascii '.' hmem) (by decide)

/-- A run is made of zeros in front, if there are any, and a run that begins with another digit or
is a single zero. -/
theorem exists_eq_append (h : SpellsRun s n) :
    ∃ zeros core, s = zeros ++ core ∧ IsLeading zeros ∧ SpellsRun core n ∧
      (core.head? = some '0' → core = ['0']) := by
  cases h with
  | mk spelled ascii =>
    -- A zero in front joins those that are found in the rest of the run.
    have hskip {pre rest : List Char} {digits : List Nat} (hpre : IsLeading pre)
        (h : ∃ zeros core, rest = zeros ++ core ∧ IsLeading zeros ∧
          SpellsRun core (Nat.ofDigits 10 digits.reverse) ∧
            (core.head? = some '0' → core = ['0'])) :
        ∃ zeros core, pre ++ rest = zeros ++ core ∧ IsLeading zeros ∧
          SpellsRun core (Nat.ofDigits 10 (0 :: digits).reverse) ∧
            (core.head? = some '0' → core = ['0']) := by
      obtain ⟨zeros, core, rfl, hzeros, hcore, hbare⟩ := h
      rw [List.reverse_cons, Nat.ofDigits_append_zero]
      exact ⟨pre ++ zeros, core, (List.append_assoc ..).symm, hpre.append hzeros, hcore, hbare⟩
    have hzero {c : Char} {d : Nat} (hc : c = '0') (digit : decimalDigit? c = some d) : d = 0 := by
      subst hc
      exact (Option.some.inj digit).symm
    induction spelled with
    | @last c d digit =>
      refine ⟨[], [c], rfl, .nil, .mk (.last digit) ascii, ?_⟩
      intro hhead
      rw [Option.some.inj hhead]
    | @next c d s digits digit rest ih =>
      obtain ⟨-, hascii⟩ := List.forall_mem_cons.mp ascii
      by_cases hc : c = '0'
      · obtain rfl := hzero hc digit
        subst hc
        exact hskip .zero (ih hascii)
      · refine ⟨[], _, rfl, .nil, .mk (.next digit rest) ascii, ?_⟩
        intro hhead
        exact absurd (Option.some.inj hhead) hc
    | @underscore c d s digits digit rest ih =>
      obtain ⟨-, hrest⟩ := List.forall_mem_cons.mp ascii
      obtain ⟨-, hascii⟩ := List.forall_mem_cons.mp hrest
      by_cases hc : c = '0'
      · obtain rfl := hzero hc digit
        subst hc
        have hpair : IsLeading ['0', '_'] := ⟨by simp, by decide⟩
        exact hskip hpair (ih hascii)
      · refine ⟨[], _, rfl, .nil, .mk (.underscore digit rest) ascii, ?_⟩
        intro hhead
        exact absurd (Option.some.inj hhead) hc

end SpellsRun

/-! ### Underscores -/

theorem any_isEmpty_iff {runs : List (List Char)} :
    ¬ runs.any List.isEmpty = true ↔ ∀ run ∈ runs, run ≠ [] := by
  rw [List.any_eq_true]
  constructor
  · intro h run hrun hnil
    exact h ⟨run, hrun, List.isEmpty_iff.mpr hnil⟩
  · rintro h ⟨run, hrun, hempty⟩
    exact h run hrun (List.isEmpty_iff.mp hempty)

theorem removeUnderscores_of_forall {s : List Char}
    (h : ∀ run ∈ s.splitOnP (· == '_'), run ≠ []) : removeUnderscores s = bareDigits s :=
  if_neg (any_isEmpty_iff.mpr h)

/-- Digits are what is left only if all underscores were removed. -/
theorem removeUnderscores_eq_iff {s d : List Char} (hd : AreDigits d) (hne : d ≠ []) :
    removeUnderscores s = d ↔
      (∀ run ∈ s.splitOnP (· == '_'), run ≠ []) ∧ bareDigits s = d := by
  by_cases hruns : ∀ run ∈ s.splitOnP (· == '_'), run ≠ []
  · rw [removeUnderscores_of_forall hruns]
    exact ⟨fun h => ⟨hruns, h⟩, fun h => h.2⟩
  · have hkept : removeUnderscores s = s := if_pos (by
      by_contra hany
      exact hruns (any_isEmpty_iff.mp hany))
    rw [hkept]
    constructor
    · rintro rfl
      -- There is no underscore among digits, and so only one run.
      have hmark : '_' ∉ s := fun hmem => absurd (hd _ hmem) (by decide)
      rw [splitOnP_beq_of_not_mem hmark] at hruns
      exact absurd (fun run hrun => List.mem_singleton.mp hrun ▸ hne) hruns
    · intro h
      exact absurd h.1 hruns

/-- **Removing underscores leaves a decimal text** exactly from the runs of digits without zeros in
front. -/
theorem removeUnderscores_eq_toDigits_iff {s : List Char} {k : Nat} :
    removeUnderscores s = Nat.toDigits 10 k ↔
      SpellsRun s k ∧ (s.head? = some '0' → s = ['0']) := by
  rw [removeUnderscores_eq_iff (areDigits_toDigits k) Nat.toDigits_ne_nil]
  constructor
  · rintro ⟨hruns, hbare⟩
    have hrun : SpellsRun s k := by
      refine spellsRun_iff.mpr ⟨hruns, ?_, ?_⟩
      · rw [hbare]
        exact areDigits_toDigits k
      · rw [hbare, Nat.ofDigitChars_ten_toDigits]
    refine ⟨hrun, fun hhead => ?_⟩
    obtain ⟨rest, rfl⟩ := List.head?_eq_some_iff.mp hhead
    rw [bareDigits_cons (by decide)] at hbare
    have hzero : k = 0 := by
      by_contra hk
      refine head?_toDigits_ne (Nat.pos_of_ne_zero hk) ?_
      rw [← hbare]
      rfl
    subst hzero
    have hnone : bareDigits rest = [] := (List.cons.inj hbare).2
    -- The last digit of the run is its first.
    obtain ⟨before, c, hlast, hc⟩ := hrun.exists_eq_concat
    cases before with
    | nil => exact hlast.trans (by rw [List.nil_append, (List.cons.inj hlast).1])
    | cons b before =>
      have hmem : c ∈ bareDigits rest := by
        refine mem_bareDigits.mpr ⟨?_, ?_⟩
        · rw [(List.cons.inj hlast).2]
          simp
        · rintro rfl
          cases hc
      rw [hnone] at hmem
      cases hmem
  · rintro ⟨hrun, hbare⟩
    obtain ⟨hruns, hdigits, hvalue⟩ := spellsRun_iff.mp hrun
    obtain ⟨c, rest, rfl, hc⟩ := hrun.exists_eq_cons
    have hne : c ≠ '_' := by
      rintro rfl
      cases hc
    refine ⟨hruns, ?_⟩
    rw [← hvalue, toDigits_ofDigitChars hdigits]
    · rw [bareDigits_cons hne]
      exact List.cons_ne_nil _ _
    · rw [bareDigits_cons hne]
      intro hhead
      obtain ⟨rfl, rfl⟩ := List.cons.inj (hbare hhead)
      rfl

/-- A character other than an underscore stays in front of what is left of the others. -/
theorem removeUnderscores_cons_cons {c d : Char} (hc : c ≠ '_') (hd : d ≠ '_') (s : List Char) :
    removeUnderscores (c :: d :: s) = c :: removeUnderscores (d :: s) := by
  obtain ⟨run, runs, hruns⟩ := List.exists_cons_of_ne_nil (List.splitOnP_ne_nil (· == '_') s)
  simp only [removeUnderscores, List.splitOnP_cons_eq_if_modifyHead, hruns,
    beq_eq_false_iff_ne.mpr hc, beq_eq_false_iff_ne.mpr hd]
  by_cases hempty : runs.any List.isEmpty = true
  · simp [hempty]
  · simp [hempty, hc, hd]

/-- One underscore after the first character is removed with those that may be after it. -/
theorem removeUnderscores_cons_underscore {c : Char} (hc : c ≠ '_') {s : List Char} :
    removeUnderscores (c :: '_' :: s) =
      if ∀ run ∈ s.splitOnP (· == '_'), run ≠ [] then c :: bareDigits s else c :: '_' :: s := by
  have hsplit : (c :: '_' :: s).splitOnP (· == '_') = [c] :: s.splitOnP (· == '_') := by
    have hmark : '_' ∉ [c] := fun hmem => hc (List.mem_singleton.mp hmem).symm
    exact splitOnP_beq_append hmark s
  have hbare : bareDigits (c :: '_' :: s) = c :: bareDigits s := by
    rw [bareDigits_cons hc]
    rfl
  split_ifs with hruns
  · rw [removeUnderscores_of_forall, hbare]
    rw [hsplit]
    exact List.forall_mem_cons.mpr ⟨List.cons_ne_nil _ _, hruns⟩
  · refine if_pos ?_
    by_contra hany
    rw [any_isEmpty_iff, hsplit] at hany
    exact hruns (List.forall_mem_cons.mp hany).2

theorem head?_removeUnderscores (c : Char) (s : List Char) :
    (removeUnderscores (c :: s)).head? = some c := by
  unfold removeUnderscores
  split_ifs with hany
  · rfl
  · -- An underscore at the beginning would have an empty run before it.
    have hne : c ≠ '_' := by
      rintro rfl
      refine any_isEmpty_iff.mp hany [] ?_ rfl
      rw [List.splitOnP_cons_eq_if_modifyHead]
      exact List.mem_cons_self
    exact congrArg List.head? (bareDigits_cons hne s)

/-- An underscore behind a minus sign is removed if what follows it is a run. -/
theorem removeUnderscores_minus_underscore_iff {s : List Char} {k : Nat} :
    removeUnderscores ('-' :: '_' :: s) = '-' :: Nat.toDigits 10 k ↔
      removeUnderscores s = Nat.toDigits 10 k := by
  rw [removeUnderscores_eq_iff (areDigits_toDigits k) Nat.toDigits_ne_nil,
    removeUnderscores_cons_underscore (by decide)]
  split_ifs with hruns
  · rw [List.cons.injEq]
    exact ⟨fun h => ⟨hruns, h.2⟩, fun h => ⟨rfl, h.2⟩⟩
  · constructor
    · intro h
      have hmem : '_' ∈ Nat.toDigits 10 k := by
        rw [← (List.cons.inj h).2]
        exact List.mem_cons_self
      exact absurd (areDigits_toDigits k _ hmem) (by decide)
    · intro h
      exact absurd h.1 hruns

/-- What is left behind a minus sign is a decimal text exactly if a run stands there, or an
underscore and a run. -/
theorem removeUnderscores_minus_iff {s : List Char} {k : Nat} :
    removeUnderscores ('-' :: s) = '-' :: Nat.toDigits 10 k ↔
      ∃ gap run, (gap = [] ∨ gap = ['_']) ∧ s = gap ++ run ∧ SpellsRun run k ∧
        (run.head? = some '0' → run = ['0']) := by
  cases s with
  | nil =>
    have hminus : removeUnderscores ['-'] = ['-'] := by decide
    rw [hminus]
    constructor
    · intro h
      exact absurd (List.cons.inj h).2.symm Nat.toDigits_ne_nil
    · rintro ⟨gap, run, -, hnil, hrun, -⟩
      obtain ⟨c, rest, rfl, -⟩ := hrun.exists_eq_cons
      simp at hnil
  | cons d s =>
    by_cases hd : d = '_'
    · subst hd
      rw [removeUnderscores_minus_underscore_iff, removeUnderscores_eq_toDigits_iff]
      constructor
      · rintro ⟨hrun, hbare⟩
        exact ⟨['_'], s, .inr rfl, rfl, hrun, hbare⟩
      · rintro ⟨gap, run, rfl | rfl, heq, hrun, hbare⟩
        · -- A run does not begin with an underscore.
          obtain ⟨c, rest, rfl, hc⟩ := hrun.exists_eq_cons
          rw [List.nil_append] at heq
          rw [← (List.cons.inj heq).1] at hc
          cases hc
        · obtain rfl := (List.cons.inj heq).2
          exact ⟨hrun, hbare⟩
    · rw [removeUnderscores_cons_cons (by decide) hd, List.cons.injEq,
        removeUnderscores_eq_toDigits_iff]
      constructor
      · rintro ⟨-, hrun, hbare⟩
        exact ⟨[], _, .inl rfl, rfl, hrun, hbare⟩
      · rintro ⟨gap, run, rfl | rfl, heq, hrun, hbare⟩
        · rw [List.nil_append] at heq
          exact ⟨rfl, heq ▸ hrun, heq ▸ hbare⟩
        · exact absurd (List.cons.inj heq).1 hd

/-! ### Fractions -/

theorem dropZeroFraction_append {run fraction : List Char} (hrun : '.' ∉ run)
    (h : IsZeroFraction fraction) : dropZeroFraction (run ++ fraction) = run := by
  unfold dropZeroFraction
  cases h with
  | none =>
    rw [List.append_nil, dropWhile_bne_of_not_mem hrun]
  | zeros k =>
    rw [dropWhile_bne_append hrun, takeWhile_bne_append hrun, List.replicate_succ]
    simp

/-- What is dropped is a fraction of zeros. -/
theorem exists_append_dropZeroFraction (s : List Char) :
    ∃ fraction, s = dropZeroFraction s ++ fraction ∧ IsZeroFraction fraction := by
  unfold dropZeroFraction
  split
  · rename_i zeros hpoint
    split_ifs with hzeros
    · refine ⟨'.' :: '0' :: zeros, ?_, ?_⟩
      · rw [← hpoint, List.takeWhile_append_dropWhile]
      · have hreplicate : zeros = List.replicate zeros.length '0' := by
          rw [List.eq_replicate_iff]
          refine ⟨rfl, ?_⟩
          intro c hc
          exact beq_iff_eq.mp (List.all_eq_true.mp hzeros c hc)
        rw [hreplicate, ← List.replicate_succ]
        exact .zeros zeros.length
    · exact ⟨[], (List.append_nil s).symm, .none⟩
  · exact ⟨[], (List.append_nil s).symm, .none⟩

/-- A first character other than the point stays. -/
theorem exists_dropZeroFraction_eq_cons {c : Char} (hc : c ≠ '.') (s : List Char) :
    ∃ rest fraction, dropZeroFraction (c :: s) = c :: rest ∧ s = rest ++ fraction ∧
      IsZeroFraction fraction := by
  obtain ⟨fraction, heq, hfraction⟩ := exists_append_dropZeroFraction (c :: s)
  cases hrest : dropZeroFraction (c :: s) with
  | nil =>
    rw [hrest, List.nil_append] at heq
    cases hfraction with
    | none => cases heq
    | zeros k => exact absurd (List.cons.inj heq).1 hc
  | cons d rest =>
    rw [hrest, List.cons_append] at heq
    obtain ⟨rfl, htail⟩ := List.cons.inj heq
    exact ⟨rest, fraction, rfl, htail, hfraction⟩

/-! ### Zeros in front -/

/-- What dropping the zeros in front makes of a text. -/
inductive DropsZeros : List Char → List Char → Prop where
  /-- The rest begins with another digit. -/
  | digit {zeros rest : List Char} {c : Char} (leading : IsLeading zeros)
      (digit : c.isDigit = true) (other : c ≠ '0') : DropsZeros (zeros ++ c :: rest) (c :: rest)
  /-- The rest begins with a minus sign after a zero. -/
  | minus {zeros rest : List Char} (leading : IsLeading zeros) (nonempty : zeros ≠ []) :
      DropsZeros (zeros ++ '-' :: rest) ('-' :: rest)
  /-- There is nothing else, or a point, and the character before it stays. -/
  | last {zeros rest : List Char} {c : Char} (leading : IsLeading (zeros ++ [c]))
      (ends : rest = [] ∨ rest.head? = some '.') : DropsZeros (zeros ++ c :: rest) (c :: rest)

theorem IsLeading.exists_eq_cons {s : List Char} (h : IsLeading s) (hne : s ≠ []) :
    ∃ rest, s = '0' :: rest := by
  obtain ⟨c, rest, rfl⟩ := List.exists_cons_of_ne_nil hne
  rcases h.zeros c List.mem_cons_self with rfl | rfl
  · exact ⟨rest, rfl⟩
  · exact absurd rfl h.head

theorem not_isLeadingZero_of_isDigit {c : Char} (hc : c.isDigit = true) (hne : c ≠ '0') :
    isLeadingZero c = false := by
  rw [← Bool.not_eq_true, isLeadingZero_iff, not_or]
  refine ⟨hne, ?_⟩
  rintro rfl
  cases hc

theorem afterZeros?_cons {c : Char} (hc : c ≠ '.') (zeros rest : List Char) :
    afterZeros? zeros (c :: rest) =
      if c.isDigit || c == '-' then some (c :: rest) else none := by
  unfold afterZeros?
  split
  · rename_i heq
    cases heq
  · rename_i heq
    exact absurd (List.cons.inj heq).1 hc
  · rename_i heq
    rw [(List.cons.inj heq).1]

theorem afterZeros?_of_ends {zeros rest : List Char} {c : Char}
    (hrest : rest = [] ∨ rest.head? = some '.') :
    afterZeros? (zeros ++ [c]) rest = some (c :: rest) := by
  have hlast : (zeros ++ [c]).getLast?.toList = [c] := by
    rw [List.getLast?_concat]
    rfl
  rcases hrest with rfl | hpoint
  · rw [afterZeros?, hlast]
    rfl
  · obtain ⟨tail, rfl⟩ := List.head?_eq_some_iff.mp hpoint
    rw [afterZeros?, hlast]
    rfl

theorem dropLeadingZeros?_append {zeros rest : List Char} (h : IsLeading zeros) (hne : zeros ≠ [])
    (hrest : ∀ c ∈ rest.head?, isLeadingZero c = false) :
    dropLeadingZeros? (zeros ++ rest) = afterZeros? zeros rest := by
  have htake := takeWhile_append_of_head h.isLeadingZero hrest
  have hdrop := dropWhile_append_of_head h.isLeadingZero hrest
  obtain ⟨tail, rfl⟩ := h.exists_eq_cons hne
  rw [List.cons_append] at htake hdrop ⊢
  rw [dropLeadingZeros?, htake, hdrop]

/-- Without a zero in front, nothing is dropped. -/
theorem dropLeadingZeros?_cons {c : Char} (hc : c ≠ '0') (rest : List Char) :
    dropLeadingZeros? (c :: rest) = if c.isDigit then some (c :: rest) else none := by
  rw [dropLeadingZeros?]
  rintro rfl
  exact absurd rfl hc

theorem DropsZeros.dropLeadingZeros?_eq {s t : List Char} (h : DropsZeros s t) :
    dropLeadingZeros? s = some t := by
  cases h with
  | @digit zeros rest c leading digit other =>
    have hpoint : c ≠ '.' := by
      rintro rfl
      cases digit
    by_cases hne : zeros = []
    · rw [hne, List.nil_append, dropLeadingZeros?_cons other, if_pos digit]
    · have hhead : ∀ d ∈ (c :: rest).head?, isLeadingZero d = false := by
        intro d hd
        obtain rfl := Option.some.inj hd
        exact not_isLeadingZero_of_isDigit digit other
      rw [dropLeadingZeros?_append leading hne hhead, afterZeros?_cons hpoint, digit]
      rfl
  | minus leading nonempty =>
    rw [dropLeadingZeros?_append leading nonempty (by simp [isLeadingZero]),
      afterZeros?_cons (by decide)]
    rfl
  | @last zeros rest c leading ends =>
    have hhead : ∀ d ∈ rest.head?, isLeadingZero d = false := by
      intro d hd
      rcases ends with rfl | hpoint
      · cases hd
      · rw [hpoint] at hd
        obtain rfl := Option.some.inj hd
        rfl
    have heq : zeros ++ c :: rest = (zeros ++ [c]) ++ rest := by
      simp
    rw [heq, dropLeadingZeros?_append leading (by simp) hhead, afterZeros?_of_ends ends]

theorem dropsZeros_of_afterZeros? {zeros rest t : List Char} (h : IsLeading zeros)
    (hne : zeros ≠ []) (hrest : ∀ c ∈ rest.head?, isLeadingZero c = false)
    (ht : afterZeros? zeros rest = some t) : DropsZeros (zeros ++ rest) t := by
  -- The last of the zeros stays if nothing or a point follows.
  have hends (hends : rest = [] ∨ rest.head? = some '.') : DropsZeros (zeros ++ rest) t := by
    have hconcat := List.dropLast_append_getLast hne
    rw [← hconcat] at h ht ⊢
    rw [afterZeros?_of_ends hends] at ht
    obtain rfl := Option.some.inj ht
    rw [List.append_assoc, List.singleton_append]
    exact .last h hends
  cases rest with
  | nil => exact hends (.inl rfl)
  | cons c rest =>
    by_cases hpoint : c = '.'
    · exact hends (.inr (congrArg some hpoint))
    · rw [afterZeros?_cons hpoint] at ht
      split_ifs at ht with hc
      obtain rfl := Option.some.inj ht
      rcases Bool.or_eq_true_iff.mp hc with hdigit | hminus
      · refine .digit h hdigit ?_
        rintro rfl
        exact absurd (hrest '0' rfl) (by decide)
      · obtain rfl := beq_iff_eq.mp hminus
        exact .minus h hne

/-- **What dropping the zeros in front makes of a text**. -/
theorem dropLeadingZeros?_eq_some_iff {s t : List Char} :
    dropLeadingZeros? s = some t ↔ DropsZeros s t := by
  refine ⟨fun h => ?_, DropsZeros.dropLeadingZeros?_eq⟩
  cases s with
  | nil => cases h
  | cons c s =>
    by_cases hzero : c = '0'
    · subst hzero
      have hleading : IsLeading (('0' :: s).takeWhile isLeadingZero) := by
        refine ⟨fun c hc => isLeadingZero_iff.mp (List.mem_takeWhile_imp hc), ?_⟩
        rw [List.takeWhile_cons_of_pos rfl]
        simp
      have hne : ('0' :: s).takeWhile isLeadingZero ≠ [] := by
        rw [List.takeWhile_cons_of_pos rfl]
        exact List.cons_ne_nil _ _
      have hhead : ∀ c ∈ (('0' :: s).dropWhile isLeadingZero).head?, isLeadingZero c = false := by
        intro c hc
        have hnot := List.head?_dropWhile_not isLeadingZero ('0' :: s)
        rw [Option.mem_def.mp hc] at hnot
        exact hnot
      have hdrops := dropsZeros_of_afterZeros? hleading hne hhead h
      rwa [List.takeWhile_append_dropWhile] at hdrops
    · rw [dropLeadingZeros?_cons hzero] at h
      split_ifs at h with hc
      obtain rfl := Option.some.inj h
      exact @DropsZeros.digit [] s c .nil hc hzero

/-! ### Bodies -/

/-- The three steps of cleaning, with what each of them leaves. -/
theorem cleanBody?_eq_some_iff {s cleaned : List Char} :
    cleanBody? s = some cleaned ↔
      ∃ t, DropsZeros s t ∧ removeUnderscores (dropZeroFraction t) = cleaned := by
  rw [cleanBody?, Option.map_eq_some_iff]
  simp only [dropLeadingZeros?_eq_some_iff]

theorem DropsZeros.exists_eq_append {s t : List Char} (h : DropsZeros s t) :
    ∃ zeros, IsLeading zeros ∧ s = zeros ++ t := by
  cases h with
  | digit leading => exact ⟨_, leading, rfl⟩
  | minus leading => exact ⟨_, leading, rfl⟩
  | last leading => exact ⟨_, leading.of_append, rfl⟩

/-- **The bodies that are cleaned to the decimal text of a natural number**. -/
theorem cleanBody?_eq_toDigits_iff {s : List Char} {k : Nat} :
    cleanBody? s = some (Nat.toDigits 10 k) ↔ SpellsWhole s k := by
  rw [cleanBody?_eq_some_iff]
  constructor
  · rintro ⟨t, hdrops, hcleaned⟩
    obtain ⟨hrun, -⟩ := removeUnderscores_eq_toDigits_iff.mp hcleaned
    obtain ⟨zeros, hzeros, rfl⟩ := hdrops.exists_eq_append
    obtain ⟨fraction, ht, hfraction⟩ := exists_append_dropZeroFraction t
    rw [ht, ← List.append_assoc]
    exact .mk hzeros hrun hfraction
  · intro h
    cases h with
    | @mk leading run fraction n hleading hrun hfraction =>
      -- The zeros at the beginning of the run are dropped with those before it.
      obtain ⟨zeros, core, rfl, hzeros, hcore, hbare⟩ := hrun.exists_eq_append
      have hall := hleading.append hzeros
      have htext : leading ++ (zeros ++ core) ++ fraction
          = (leading ++ zeros) ++ (core ++ fraction) := by
        simp
      refine ⟨core ++ fraction, ?_, ?_⟩
      · rw [htext]
        obtain ⟨c, rest, rfl, hc⟩ := hcore.exists_eq_cons
        by_cases hzero : c = '0'
        · subst hzero
          obtain rfl := (List.cons.inj (hbare rfl)).2
          refine .last (hall.append .zero) ?_
          cases hfraction with
          | none => exact .inl rfl
          | zeros k => exact .inr rfl
        · exact .digit hall hc hzero
      · rw [dropZeroFraction_append hcore.not_mem_point hfraction]
        exact removeUnderscores_eq_toDigits_iff.mpr ⟨hcore, hbare⟩

/-- What is left of a text begins as it does, unless that is a point. -/
theorem head?_removeUnderscores_dropZeroFraction {c : Char} (hc : c ≠ '.') (s : List Char) :
    (removeUnderscores (dropZeroFraction (c :: s))).head? = some c := by
  obtain ⟨rest, fraction, heq, -⟩ := exists_dropZeroFraction_eq_cons hc s
  rw [heq, head?_removeUnderscores]

/-- **The bodies that are cleaned to the decimal text of a natural number behind a minus sign**. -/
theorem cleanBody?_eq_minus_iff {s : List Char} {k : Nat} :
    cleanBody? s = some ('-' :: Nat.toDigits 10 k) ↔ SpellsMinusInside s k := by
  rw [cleanBody?_eq_some_iff]
  constructor
  · rintro ⟨t, hdrops, hcleaned⟩
    -- Only a minus sign of the text is left at the beginning.
    have hfirst {c : Char} {rest : List Char} (hpoint : c ≠ '.')
        (h : removeUnderscores (dropZeroFraction (c :: rest)) = '-' :: Nat.toDigits 10 k) :
        c = '-' := by
      have hhead := head?_removeUnderscores_dropZeroFraction hpoint rest
      rw [h] at hhead
      exact (Option.some.inj hhead).symm
    cases hdrops with
    | @digit zeros rest c leading digit other =>
      have hpoint : c ≠ '.' := by
        rintro rfl
        cases digit
      rw [hfirst hpoint hcleaned] at digit
      cases digit
    | @last zeros rest c leading ends =>
      have hc : c = '0' ∨ c = '_' := leading.zeros c (by simp)
      have hpoint : c ≠ '.' := by
        rintro rfl
        exact absurd hc (by decide)
      rw [hfirst hpoint hcleaned] at hc
      exact absurd hc (by decide)
    | @minus zeros rest leading nonempty =>
      obtain ⟨run, fraction, heq, rfl, hfraction⟩ :=
        exists_dropZeroFraction_eq_cons (c := '-') (by decide) rest
      rw [heq] at hcleaned
      obtain ⟨gap, run, hgap, rfl, hrun, hbare⟩ := removeUnderscores_minus_iff.mp hcleaned
      exact .mk leading nonempty hgap hrun hbare hfraction
  · intro h
    cases h with
    | @mk leading gap run fraction n hleading hne hgap hrun hbare hfraction =>
      refine ⟨_, .minus hleading hne, ?_⟩
      have hpoint : '.' ∉ '-' :: (gap ++ run) := by
        have hnot := hrun.not_mem_point
        rcases hgap with rfl | rfl <;> simp [hnot]
      have hdrop : dropZeroFraction ('-' :: (gap ++ run) ++ fraction) = '-' :: (gap ++ run) :=
        dropZeroFraction_append hpoint hfraction
      rw [List.cons_append] at hdrop
      rw [hdrop]
      exact removeUnderscores_minus_iff.mpr ⟨gap, run, hgap, rfl, hrun, hbare⟩

end CardHealth.Numeral
