import CardHealth.Proofs.CardStatus.Field
import CardHealth.Proofs.Value.Integer

/-!
# Integer fields

Six of the nine fields are integers.  Each of them takes the values that denote an integer, and
holds that integer: `integer_fields_are_exact`.  What a text denotes is not quite what it denotes
elsewhere, since there are liberties behind a leading zero (`not_forall_isStrict`).
-/

namespace CardHealth.CardStatus

namespace Field

variable {f : Field}

/-- The fields that are integers. -/
def integers : List Field :=
  [.id, .lastUpdated, .size, .status, .numBadSectors, .curRoundNum]

theorem check_of_mem_integers (hf : f ∈ integers) (value : Value) :
    f.check value = value.toInt.map .int := by
  simp only [integers, List.mem_cons, List.not_mem_nil, or_false] at hf
  rcases hf with rfl | rfl | rfl | rfl | rfl | rfl <;> rfl

/-- What an integer field takes, and what it holds then. -/
theorem check_eq_ok_iff_of_mem_integers (hf : f ∈ integers) (value accepted : Value) :
    f.check value = .ok accepted ↔
      ∃ n, value.DenotesInt n ∧ value.WithinLimit n ∧ accepted = .int n := by
  rw [check_of_mem_integers hf, map_eq_ok_iff]
  simp only [Value.toInt_eq_ok_iff]
  constructor
  · rintro ⟨n, ⟨hdenoted, hlimit⟩, rfl⟩
    exact ⟨n, hdenoted, hlimit, rfl⟩
  · rintro ⟨n, hdenoted, hlimit, rfl⟩
    exact ⟨n, ⟨hdenoted, hlimit⟩, rfl⟩

end Field

/-- **The integer fields never change a number**.

In every record, each of them holds the one integer that the value under its key denotes.  On its
own, each of them takes exactly the values that denote an integer within the limit for their kind,
and an object is refused for every other value.  Texts and byte strings may have more zeros in
front, in any number: what was taken still is, as the same integer. -/
theorem integer_fields_are_exact :
    (∀ v s, check v = .ok s → ∀ f ∈ Field.integers, ∃ fields value n, v = .object fields ∧
      lastNamed? f.key fields = some value ∧ s.get f = .int n ∧
      value.DenotesInt n ∧ ∀ m, value.DenotesInt m → m = n) ∧
    ∀ f ∈ Field.integers,
      (∀ value accepted, f.check value = .ok accepted ↔
        ∃ n, value.DenotesInt n ∧ value.WithinLimit n ∧ accepted = .int n) ∧
      (∀ fields value, lastNamed? f.key fields = some value → (∀ n, ¬value.DenotesInt n) →
        ∃ refusal fault, check (.object fields) = .error refusal ∧
          ⟨some f.key, fault⟩ ∈ refusal.faults) ∧
      (∀ v w s t k accepted, v.HoldsText s → w.HoldsText t →
        t.toList = Numeral.withZeros k s.toList → f.check v = .ok accepted →
        f.check w = .ok accepted) := by
  constructor
  · intro v s hs f hf
    cases v with
    | object fields =>
      have hsettled := (check_object_eq_ok_iff_settle fields s).mp hs f
      cases hvalue : lastNamed? f.key fields with
      | none =>
        rw [hvalue] at hsettled
        cases hsettled
      | some value =>
        rw [hvalue] at hsettled
        obtain ⟨n, hdenoted, -, hget⟩ :=
          (Field.check_eq_ok_iff_of_mem_integers hf value (s.get f)).mp hsettled
        refine ⟨fields, value, n, rfl, hvalue, hget, hdenoted, ?_⟩
        intro m hm
        exact hm.unique hdenoted
    | _ => cases hs
  · intro f hf
    refine ⟨?_, ?_, ?_⟩
    · exact Field.check_eq_ok_iff_of_mem_integers hf
    · intro fields value hvalue hnone
      -- The field has a fault, for it has no outcome.
      have hrejected : ∃ fault, f.settle (lastNamed? f.key fields) = .error fault := by
        rw [hvalue]
        show ∃ fault, f.check value = .error fault
        cases hchecked : f.check value with
        | error fault => exact ⟨fault, rfl⟩
        | ok accepted =>
          obtain ⟨n, hdenoted, -⟩ :=
            (Field.check_eq_ok_iff_of_mem_integers hf value accepted).mp hchecked
          exact absurd hdenoted (hnone n)
      obtain ⟨fault, hfault⟩ := hrejected
      have hmem : ⟨some f.key, fault⟩ ∈ faults fun f => lastNamed? f.key fields :=
        mem_faults_iff.mpr ⟨f, fault, hfault, rfl⟩
      exact ⟨_, fault, (check_object_eq_error_iff fields _).mpr ⟨⟨f, fault, hfault⟩, rfl⟩, hmem⟩
    · intro v w s t k accepted hv hw ht hchecked
      rw [Field.check_of_mem_integers hf, map_eq_ok_iff] at hchecked ⊢
      obtain ⟨n, hn, rfl⟩ := hchecked
      exact ⟨n, Value.toInt_of_withZeros hv hw ht hn, rfl⟩

/-- The fields of an object in which integers are written in five ways. -/
def writtenFields : List (String × Value) :=
  [("id", .int (2 ^ 70)), ("name", .text ""), ("data", .null), ("last_updated", .bool true),
   ("size", .float (.finite true (3 * Binary64.one))), ("status", .text " +1_0.0\n"),
   ("rate", .int 0), ("num_bad_sectors", .bytes .fixed [0x2D, 0x37]), ("cur_round_num", .int 0)]

theorem integer_fields_are_exact_small :
    (∃ s, check (.object writtenFields) = .ok s ∧ s.status = 10 ∧
      (Value.text " +1_0.0\n").DenotesInt 10) ∧
    (∃ refusal fault, check (.object (writtenFields ++ [("size", .float .nan)])) = .error refusal ∧
      ⟨some "size", fault⟩ ∈ refusal.faults) ∧
    Field.status.check (.text " +001_0.0\n") = .ok (.int 10) := by
  obtain ⟨hexact, hfields⟩ := integer_fields_are_exact
  obtain ⟨-, -, hzeros⟩ := hfields .status (by decide)
  obtain ⟨-, hrefused, -⟩ := hfields .size (by decide)
  refine ⟨?_, ?_, ?_⟩
  · have hchecked : ∃ s ∈ (check (.object writtenFields)).toOption, s.status = 10 := by
      decide +kernel
    obtain ⟨s, hs, hstatus⟩ := hchecked
    have hok := eq_ok_of_toOption_eq_some hs
    obtain ⟨fields, value, n, hv, hvalue, hget, hdenoted, -⟩ := hexact _ s hok .status (by decide)
    obtain rfl := Value.object.inj hv
    obtain rfl : Value.text " +1_0.0\n" = value := Option.some.inj hvalue
    obtain rfl : s.status = n := Value.int.inj hget
    rw [hstatus] at hdenoted
    exact ⟨s, hok, hstatus, hdenoted⟩
  · apply hrefused _ (.float .nan) rfl
    intro n hn
    cases hn with
    | float equal => cases equal
    | numeral held _ => cases held
  · apply hzeros (.text " +1_0.0\n") _ _ _ 2 _ (.text _) (.text _) (by decide)
    rfl

/-- A numeral without liberties: a sign, digits with single underscores between them, and a fraction
of zeros, with white space around it. -/
def IsStrict (s : List Char) : Prop :=
  ∃ before sign run fraction after n, s = before ++ sign ++ run ++ fraction ++ after ∧
    (∀ c ∈ before, Text.isBlank c = true) ∧ (∀ c ∈ after, Text.isBlank c = true) ∧
    sign ∈ [[], ['+'], ['-']] ∧ Numeral.SpellsRun run n ∧ Numeral.IsZeroFraction fraction

theorem not_isStrict_doubled : ¬ IsStrict "0__15".toList := by
  rintro ⟨before, sign, run, fraction, after, n, heq, hbefore, hafter, hsign, hrun, hfraction⟩
  have htext : "0__15".toList = ['0', '_', '_', '1', '5'] := rfl
  rw [htext, List.append_assoc, List.append_assoc, List.append_assoc] at heq
  -- Nothing stands before the run, for the text begins with a digit.
  obtain rfl : before = [] := by
    cases before with
    | nil => rfl
    | cons c before =>
      have hblank := hbefore c List.mem_cons_self
      rw [← (List.cons.inj heq).1] at hblank
      cases hblank
  obtain rfl : sign = [] := by
    simp only [List.mem_cons, List.not_mem_nil, or_false] at hsign
    rcases hsign with rfl | rfl | rfl
    · rfl
    · exact absurd (List.cons.inj heq).1 (by decide)
    · exact absurd (List.cons.inj heq).1 (by decide)
  rw [List.nil_append, List.nil_append] at heq
  -- The run goes on behind an underscore with a digit, and the text does not.
  have hdigit {rest : List Char} {digits : List Nat} (spelled : Numeral.SpellsDigits rest digits)
      {tail : List Char} (htail : '_' :: tail = rest ++ (fraction ++ after)) : False := by
    obtain ⟨c, d, rest, rfl, hc⟩ := spelled.exists_eq_cons
    rw [← (List.cons.inj htail).1] at hc
    cases hc
  cases hrun with
  | mk spelled ascii =>
    cases spelled with
    | last digit =>
      have htail := (List.cons.inj heq).2
      cases hfraction with
      | none =>
        have hblank := hafter '_' (htail.subst List.mem_cons_self)
        cases hblank
      | zeros k => exact absurd (List.cons.inj htail).1 (by decide)
    | next digit rest => exact hdigit rest (List.cons.inj heq).2
    | underscore digit rest => exact hdigit rest (List.cons.inj (List.cons.inj heq).2).2

/-- An integer field takes texts that are no numerals of the strict kind. -/
theorem not_forall_isStrict :
    ¬ ∀ f ∈ Field.integers, ∀ (s : String) (accepted : Value),
      f.check (.text s) = .ok accepted → IsStrict s.toList := by
  intro h
  have hchecked : Field.id.check (.text "0__15") = .ok (.int 15) := rfl
  exact not_isStrict_doubled (h .id (by decide) "0__15" (.int 15) hchecked)

end CardHealth.CardStatus
