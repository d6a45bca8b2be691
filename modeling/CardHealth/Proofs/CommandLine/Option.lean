import CardHealth.CommandLine
import CardHealth.Proofs.Text.Mark
import Mathlib.Data.List.Infix
import Mathlib.Data.List.Nodup
import Mathlib.Data.List.Perm.Basic

/-!
# Arguments one by one

An option may be shortened as long as nothing else can be completed from what is left: `Names`.
`classify_eq_option_iff` says which arguments are options with or without a value after an equals
sign, and `classify_eq_plain_iff` which ones can be values of their own.

Both come from `classify_of_hyphens`: once two hyphens stand at the head of an argument, what it is
depends on the spellings that its name can be completed to.  That a whole spelling is looked up
first makes no difference, since none is the beginning of another.
-/

namespace CardHealth.CommandLine

/-! ### Names -/

/-- A text can be completed to one spelling, and it is that of the option. -/
def Names (name : List Char) (flag : Flag) : Prop :=
  ∃ spelling, (spelling, flag) ∈ spellings ∧ name <+: spelling.toList ∧
    ∀ other ∈ spellings, name <+: other.1.toList → other = (spelling, flag)

/-- The spellings that a text can be completed to. -/
def completions (name : List Char) : List (String × Flag) :=
  spellings.filter fun (spelling, _) => name.isPrefixOf spelling.toList

theorem mem_completions_iff {name : List Char} {completion : String × Flag} :
    completion ∈ completions name ↔
      completion ∈ spellings ∧ name <+: completion.1.toList := by
  unfold completions
  rw [List.mem_filter, List.isPrefixOf_iff_prefix]

theorem nodup_completions (name : List Char) : (completions name).Nodup :=
  List.Nodup.filter _ (by decide)

/-- A text names an option exactly if it can be completed in one way. -/
theorem names_iff {name : List Char} {flag : Flag} :
    Names name flag ↔ ∃ spelling, completions name = [(spelling, flag)] := by
  constructor
  · rintro ⟨spelling, hmem, hname, hothers⟩
    refine ⟨spelling, ?_⟩
    rw [← List.perm_singleton, List.perm_ext_iff_of_nodup (nodup_completions name) (by simp)]
    intro other
    rw [mem_completions_iff, List.mem_singleton]
    constructor
    · rintro ⟨hother, hprefix⟩
      exact hothers other hother hprefix
    · rintro rfl
      exact ⟨hmem, hname⟩
  · rintro ⟨spelling, hcompletions⟩
    have hmem : ∀ other, other ∈ spellings ∧ name <+: other.1.toList ↔
        other = (spelling, flag) := by
      intro other
      rw [← mem_completions_iff, hcompletions, List.mem_singleton]
    obtain ⟨hspelling, hname⟩ := (hmem (spelling, flag)).mpr rfl
    exact ⟨spelling, hspelling, hname, fun other hother hprefix =>
      (hmem other).mp ⟨hother, hprefix⟩⟩

/-- No spelling has an equals sign. -/
theorem Names.equals_not_mem {name : List Char} {flag : Flag} (h : Names name flag) :
    '=' ∉ name := by
  have hspellings : ∀ completion ∈ spellings, '=' ∉ completion.1.toList := by decide
  obtain ⟨spelling, hmem, hname, -⟩ := h
  intro hequals
  exact hspellings _ hmem (hname.subset hequals)

/-- The name of every option but help begins with two hyphens. -/
theorem Names.hyphens {name : List Char} {flag : Flag} (h : Names name flag)
    (hflag : flag ≠ .help) : "--".toList <+: name := by
  -- A single hyphen, or nothing, could be completed to any spelling.
  have hshort : ∀ s ∈ spellings, s.2 ≠ .help → ∀ name ∈ s.1.toList.inits,
      (∀ other ∈ spellings, name <+: other.1.toList → other = s) → "--".toList <+: name := by
    decide +kernel
  obtain ⟨spelling, hmem, hname, hothers⟩ := h
  exact hshort (spelling, flag) hmem hflag name ((List.mem_inits _ _).mpr hname) hothers

/-! ### Equals signs -/

theorem splitEquals_append {name : List Char} (h : '=' ∉ name) (value : List Char) :
    splitEquals (name ++ '=' :: value) = (name, some value) := by
  unfold splitEquals
  rw [Text.dropWhile_bne_append h, Text.takeWhile_bne_append h]

theorem splitEquals_of_not_mem {s : List Char} (h : '=' ∉ s) : splitEquals s = (s, none) := by
  unfold splitEquals
  rw [Text.dropWhile_bne_of_not_mem h]

/-- A text is its name, and the value after the equals sign if there is one. -/
theorem splitEquals_cases (s : List Char) :
    splitEquals s = (s, none) ∨
      ∃ name value, s = name ++ '=' :: value ∧ splitEquals s = (name, some value) := by
  by_cases h : '=' ∈ s
  · right
    obtain ⟨name, value, rfl, hname⟩ := List.eq_append_cons_of_mem h
    exact ⟨name, value, rfl, splitEquals_append hname value⟩
  · left
    exact splitEquals_of_not_mem h

theorem splitEquals_fst_prefix (s : List Char) : (splitEquals s).1 <+: s := by
  rcases splitEquals_cases s with h | ⟨name, value, rfl, h⟩
  · rw [h]
  · rw [h]
    exact List.prefix_append name ('=' :: value)

/-! ### Two hyphens -/

theorem mem_of_lookup {name : String} {flag : Flag} (h : spellings.lookup name = some flag) :
    (name, flag) ∈ spellings := by
  obtain ⟨before, after, heq, -⟩ := List.lookup_eq_some_iff.mp h
  rw [heq]
  exact List.mem_append_right before List.mem_cons_self

/-- A whole spelling can be completed in one way. -/
theorem completions_of_lookup {name : String} {flag : Flag}
    (h : spellings.lookup name = some flag) : completions name.toList = [(name, flag)] := by
  have hwhole : ∀ s ∈ spellings, completions s.1.toList = [s] := by decide +kernel
  exact hwhole (name, flag) (mem_of_lookup h)

theorem candidates_of_hyphens {s : List Char} (h : "--".toList <+: s) :
    candidates s = (completions (splitEquals s).1).map fun completion =>
      (completion.1, .option completion.2 ((splitEquals s).2.map (⟨·, true⟩))) := by
  unfold candidates
  dsimp only
  rw [if_pos (List.isPrefixOf_iff_prefix.mpr h)]
  rfl

/-- **What an argument is that begins with two hyphens**. -/
theorem classify_of_hyphens {s : List Char} (h : "--".toList <+: s) :
    classify (String.ofList s) =
      match completions (splitEquals s).1 with
      | [(_, flag)] => .ok (.option flag ((splitEquals s).2.map (⟨·, true⟩)))
      | [] => .ok (if isNegativeNumber s || s.contains ' ' then .plain else .unknownOption)
      | several => .error (.ambiguous (String.ofList s) (several.map (·.1))) := by
  have hhead : (s.head? != some '-') = false := by
    obtain ⟨rest, rfl⟩ := h
    rfl
  have hlength : (s.length == 1) = false := by
    have hle := h.length_le
    have htwo : "--".toList.length = 2 := rfl
    rw [beq_eq_false_iff_ne]
    omega
  unfold classify
  simp only [String.toList_ofList]
  rw [if_neg (by simp [hhead])]
  split
  · -- The whole argument is a spelling.
    rename_i flag hlookup
    have hwhole := completions_of_lookup hlookup
    rw [String.toList_ofList] at hwhole
    have hequals : '=' ∉ s := (names_iff.mpr ⟨_, hwhole⟩).equals_not_mem
    rw [splitEquals_of_not_mem hequals, hwhole]
    rfl
  · -- What stands before the equals sign is a spelling.
    rename_i flag value hnone hlookup hvalue
    have hwhole := completions_of_lookup hlookup
    rw [String.toList_ofList] at hwhole
    rw [hwhole, hvalue]
    rfl
  · rw [if_neg (by simp [hlength]), candidates_of_hyphens h]
    cases completions (splitEquals s).1 with
    | nil => rfl
    | cons first others =>
      cases others with
      | nil => rfl
      | cons second others => simp [Function.comp_def]

/-! ### One hyphen, or none -/

theorem classify_of_head {argument : String} (h : argument.toList.head? ≠ some '-') :
    classify argument = .ok .plain := by
  unfold classify
  simp [h]

/-- A whole spelling at the head of an argument begins with two hyphens, or it is that of the short
option for help. -/
theorem head_of_lookup {s : List Char} {name : String} {flag : Flag}
    (h : spellings.lookup name = some flag) (hname : name.toList <+: s) :
    "--".toList <+: s ∨ "-h".toList <+: s ∧ flag = .help := by
  have hheads : ∀ s ∈ spellings,
      "--".toList <+: s.1.toList ∨ "-h".toList <+: s.1.toList ∧ s.2 = .help := by
    decide
  rcases hheads (name, flag) (mem_of_lookup h) with hlong | ⟨hshort, hflag⟩
  · exact .inl (hlong.trans hname)
  · exact .inr ⟨hshort.trans hname, hflag⟩

theorem candidates_of_hyphen {c : Char} (hc : c ≠ '-') (rest : List Char) :
    candidates ('-' :: c :: rest) =
      if c = 'h' then [("-h", .option .help (some ⟨rest, false⟩))] else [] := by
  unfold candidates
  by_cases hh : c = 'h'
  · subst hh
    simp [spellings]
  · simp [spellings, hc, hc.symm, hh, Ne.symm hh]

/-- **What an argument is that begins with one hyphen**. -/
theorem classify_of_hyphen {c : Char} (hc : c ≠ '-') (rest : List Char) :
    (c = 'h' ∧ ∃ attached,
      classify (String.ofList ('-' :: c :: rest)) = .ok (.option .help attached)) ∨
    c ≠ 'h' ∧ classify (String.ofList ('-' :: c :: rest)) =
      .ok (if isNegativeNumber ('-' :: c :: rest) || ('-' :: c :: rest).contains ' ' then .plain
        else .unknownOption) := by
  -- A whole spelling can only be that of the short option for help.
  have hlookup : ∀ {name : String} {flag : Flag}, spellings.lookup name = some flag →
      name.toList <+: '-' :: c :: rest → c = 'h' ∧ flag = .help := by
    intro name flag h hname
    rcases head_of_lookup h hname with hlong | ⟨hshort, hflag⟩
    · have heq : '-' = c := (List.cons_prefix_cons.mp (List.cons_prefix_cons.mp hlong).2).1
      exact absurd heq.symm hc
    · have heq : 'h' = c := (List.cons_prefix_cons.mp (List.cons_prefix_cons.mp hshort).2).1
      exact ⟨heq.symm, hflag⟩
  unfold classify
  simp only [String.toList_ofList, List.head?_cons]
  rw [if_neg (by simp)]
  split
  · rename_i flag h
    obtain ⟨rfl, rfl⟩ := hlookup h (by rw [String.toList_ofList])
    exact .inl ⟨rfl, none, rfl⟩
  · rename_i flag value hnone h hvalue
    obtain ⟨rfl, rfl⟩ := hlookup h (by
      rw [String.toList_ofList]
      exact splitEquals_fst_prefix _)
    exact .inl ⟨rfl, some ⟨value, true⟩, rfl⟩
  · rw [if_neg (by simp), candidates_of_hyphen hc]
    by_cases hh : c = 'h'
    · rw [if_pos hh]
      exact .inl ⟨hh, some ⟨rest, false⟩, rfl⟩
    · rw [if_neg hh]
      exact .inr ⟨hh, rfl⟩

/-! ### Options and values -/

/-- The ways in which an argument can begin. -/
theorem argument_cases (s : List Char) :
    s.head? ≠ some '-' ∨ s = ['-'] ∨ "--".toList <+: s ∨
      ∃ c rest, c ≠ '-' ∧ s = '-' :: c :: rest := by
  by_cases hhead : s.head? = some '-'
  · right
    obtain ⟨rest, rfl⟩ := List.head?_eq_some_iff.mp hhead
    cases rest with
    | nil => exact .inl rfl
    | cons c rest =>
      right
      by_cases hc : c = '-'
      · left
        rw [hc]
        exact List.prefix_append ['-', '-'] rest
      · exact .inr ⟨c, rest, hc, rfl⟩
  · exact .inl hhead

/-- Whether an argument begins as an option does. -/
def CouldBeOption (s : List Char) : Prop :=
  "-h".toList <+: s ∨
    "--".toList <+: s ∧ ∃ completion ∈ spellings, (splitEquals s).1 <+: completion.1.toList

/-- An argument that can be the value of an option: it does not begin with a hyphen, or it is a
single hyphen, or it is a negative number or has a blank and could not be an option. -/
def IsPlain (s : List Char) : Prop :=
  s.head? ≠ some '-' ∨ s = ['-'] ∨
    ¬CouldBeOption s ∧ (isNegativeNumber s = true ∨ ' ' ∈ s)

theorem completions_eq_nil_iff {name : List Char} :
    completions name = [] ↔ ¬∃ completion ∈ spellings, name <+: completion.1.toList := by
  simp only [List.eq_nil_iff_forall_not_mem, mem_completions_iff, not_exists]

theorem classify_hyphen : classify "-" = .ok .plain := by
  rfl

/-- Whether an argument that begins with a hyphen and is no option can be a value. -/
theorem ok_ite_plain_iff {s : List Char} :
    (.ok (if isNegativeNumber s || s.contains ' ' then .plain else .unknownOption) :
      Except Error Token) = .ok .plain ↔ isNegativeNumber s = true ∨ ' ' ∈ s := by
  split_ifs with h
  · simpa using h
  · simpa using h

/-- After a hyphen there has to be a reason why an argument is no option. -/
theorem isPlain_iff_of_hyphen {c : Char} {rest : List Char} :
    IsPlain ('-' :: c :: rest) ↔
      ¬CouldBeOption ('-' :: c :: rest) ∧
        (isNegativeNumber ('-' :: c :: rest) = true ∨ ' ' ∈ '-' :: c :: rest) := by
  unfold IsPlain
  rw [or_iff_right (by simp), or_iff_right (by simp)]

/-- **The arguments that can be values**. -/
theorem classify_eq_plain_iff {argument : String} :
    classify argument = .ok .plain ↔ IsPlain argument.toList := by
  obtain ⟨s, rfl⟩ : ∃ s, argument = String.ofList s := ⟨argument.toList, by simp⟩
  rw [String.toList_ofList]
  rcases argument_cases s with hhead | rfl | hlong | ⟨c, rest, hc, rfl⟩
  · have hplain : classify (String.ofList s) = .ok .plain :=
      classify_of_head (by rwa [String.toList_ofList])
    rw [hplain]
    exact iff_of_true rfl (.inl hhead)
  · exact iff_of_true classify_hyphen (.inr (.inl rfl))
  · obtain ⟨rest, rfl⟩ := hlong
    have hcould : CouldBeOption ("--".toList ++ rest) ↔
        completions (splitEquals ("--".toList ++ rest)).1 ≠ [] := by
      unfold CouldBeOption
      rw [Ne, completions_eq_nil_iff, not_not, or_iff_right (by simp),
        and_iff_right (List.prefix_append _ rest)]
    rw [classify_of_hyphens (List.prefix_append _ rest)]
    show _ ↔ IsPlain ('-' :: '-' :: rest)
    rw [isPlain_iff_of_hyphen]
    show _ ↔ ¬CouldBeOption ("--".toList ++ rest) ∧ _
    rw [hcould]
    cases completions (splitEquals ("--".toList ++ rest)).1 with
    | nil =>
      show _ = _ ↔ _
      rw [ok_ite_plain_iff]
      simp
    | cons first others => cases others <;> simp
  · rcases classify_of_hyphen hc rest with ⟨rfl, attached, hclassify⟩ | ⟨hh, hclassify⟩
    · rw [hclassify, isPlain_iff_of_hyphen]
      have hcould : CouldBeOption ('-' :: 'h' :: rest) := .inl (List.prefix_append ['-', 'h'] rest)
      simp [hcould]
    · rw [hclassify, isPlain_iff_of_hyphen, ok_ite_plain_iff]
      have hcould : ¬CouldBeOption ('-' :: c :: rest) := by
        rintro (hshort | ⟨hlong, -⟩)
        · have heq := (List.cons_prefix_cons.mp (List.cons_prefix_cons.mp hshort).2).1
          exact hh heq.symm
        · have heq := (List.cons_prefix_cons.mp (List.cons_prefix_cons.mp hlong).2).1
          exact hc heq.symm
      rw [and_iff_right hcould]

/-- **The arguments that are options**: a name, or a name and a value after an equals sign. -/
theorem classify_eq_option_iff {argument : String} {flag : Flag} {attached : Option Attached}
    (hflag : flag ≠ .help) :
    classify argument = .ok (.option flag attached) ↔
      ∃ name, Names name flag ∧
        (argument.toList = name ∧ attached = none ∨
          ∃ value, argument.toList = name ++ '=' :: value ∧ attached = some ⟨value, true⟩) := by
  obtain ⟨s, rfl⟩ : ∃ s, argument = String.ofList s := ⟨argument.toList, by simp⟩
  rw [String.toList_ofList]
  constructor
  · intro h
    rcases argument_cases s with hhead | rfl | hlong | ⟨c, rest, hc, rfl⟩
    · rw [classify_of_head (by rwa [String.toList_ofList])] at h
      cases h
    · cases classify_hyphen.symm.trans h
    · rw [classify_of_hyphens hlong] at h
      cases hcompletions : completions (splitEquals s).1 with
      | nil =>
        rw [hcompletions] at h
        dsimp only at h
        split_ifs at h <;> cases h
      | cons first others =>
        cases others with
        | nil =>
          rw [hcompletions] at h
          cases h
          refine ⟨(splitEquals s).1, names_iff.mpr ⟨first.1, hcompletions⟩, ?_⟩
          rcases splitEquals_cases s with heq | ⟨name, value, rfl, heq⟩
          · left
            rw [heq]
            exact ⟨rfl, rfl⟩
          · right
            rw [heq]
            exact ⟨value, rfl, rfl⟩
        | cons second others =>
          rw [hcompletions] at h
          cases h
    · rcases classify_of_hyphen hc rest with ⟨rfl, attached, hclassify⟩ | ⟨hh, hclassify⟩
      · rw [hclassify] at h
        cases h
        exact absurd rfl hflag
      · rw [hclassify] at h
        split_ifs at h <;> cases h
  · rintro ⟨name, hname, ⟨rfl, rfl⟩ | ⟨value, rfl, rfl⟩⟩
    · obtain ⟨spelling, hcompletions⟩ := names_iff.mp hname
      rw [classify_of_hyphens (hname.hyphens hflag), splitEquals_of_not_mem hname.equals_not_mem,
        hcompletions]
      rfl
    · obtain ⟨spelling, hcompletions⟩ := names_iff.mp hname
      have hlong := (hname.hyphens hflag).trans (List.prefix_append name ('=' :: value))
      rw [classify_of_hyphens hlong, splitEquals_append hname.equals_not_mem, hcompletions]
      rfl

end CardHealth.CommandLine
