import CardHealth.Proofs.CommandLine.Option
import CardHealth.Proofs.Numeral.Grammar
import CardHealth.Proofs.Outcome

/-!
# Lists of arguments

Arguments are accepted exactly if they are complete options, one after the other: `AreComplete`.
What is asked for is then the last host, the last port, and a reload if there is one anywhere:
`parse_eq_serve_iff`.  The proof goes by the tokens, where the values are already apart from the
options (`TokensComplete`).
-/

namespace CardHealth.CommandLine

/-! ### Complete options -/

/-- What an option asks for. -/
inductive Setting where
  | host (value : String)
  | port (n : Int)
  | reload
  deriving DecidableEq

namespace Setting

/-- The option that asks for it. -/
def flag : Setting → Flag
  | .host _ => .host
  | .port _ => .port
  | .reload => .reload

def host? : Setting → Option String
  | .host value => some value
  | _ => none

def port? : Setting → Option Int
  | .port n => some n
  | _ => none

end Setting

/-- What an option asks for with a value: any text for the host, and a numeral for the port. -/
inductive Sets : Flag → String → Setting → Prop where
  | host (value : String) : Sets .host value (.host value)
  | port {value : String} {n : Int} (denoted : Numeral.Denotes value.toList n) :
      Sets .port value (.port n)

/-- The arguments of one option, which has its value if it takes one. -/
inductive IsComplete : List String → Setting → Prop where
  | separate {name value : String} {flag : Flag} {setting : Setting}
      (named : Names name.toList flag) (plain : IsPlain value.toList)
      (sets : Sets flag value setting) : IsComplete [name, value] setting
  | joined {name value : List Char} {flag : Flag} {setting : Setting} (named : Names name flag)
      (sets : Sets flag (String.ofList value) setting) :
      IsComplete [String.ofList (name ++ '=' :: value)] setting
  | reload {name : String} (named : Names name.toList .reload) : IsComplete [name] .reload

/-- Arguments that are complete options, one after the other. -/
inductive AreComplete : List String → List Setting → Prop where
  | nil : AreComplete [] []
  | cons {words arguments : List String} {setting : Setting} {given : List Setting}
      (first : IsComplete words setting) (rest : AreComplete arguments given) :
      AreComplete (words ++ arguments) (setting :: given)

theorem AreComplete.append {arguments others : List String} {given later : List Setting}
    (h : AreComplete arguments given) (hothers : AreComplete others later) :
    AreComplete (arguments ++ others) (given ++ later) := by
  induction h with
  | nil => exact hothers
  | cons first rest ih =>
    rw [List.append_assoc]
    exact .cons first ih

theorem AreComplete.singleton {words : List String} {setting : Setting}
    (h : IsComplete words setting) : AreComplete words [setting] := by
  have hcons := AreComplete.cons h .nil
  rwa [List.append_nil] at hcons

/-! ### What is asked for -/

/-- What a list of options asks for: the last host, the last port, and a reload if one is there. -/
def asked (given : List Setting) : Options where
  host := (given.filterMap Setting.host?).getLast?
  port := (given.filterMap Setting.port?).getLast?
  reload := decide (.reload ∈ given)

/-- The options with one more. -/
def Options.having (o : Options) : Setting → Options
  | .host value => { o with host := some value }
  | .port n => { o with port := some n }
  | .reload => { o with reload := true }

theorem asked_concat (given : List Setting) (setting : Setting) :
    asked (given ++ [setting]) = (asked given).having setting := by
  cases setting <;> simp [asked, Options.having, Setting.host?, Setting.port?]

theorem foldl_having (given : List Setting) : given.foldl Options.having {} = asked given := by
  induction given using List.reverseRecOn with
  | nil => rfl
  | append_singleton given setting ih => rw [List.foldl_concat, ih, asked_concat]

theorem Options.set_eq_ok_iff {flag : Flag} (hflag : flag.takesValue = true) {o o' : Options}
    {value : String} :
    o.set flag value = .ok o' ↔ ∃ setting, Sets flag value setting ∧ o' = o.having setting := by
  cases flag with
  | help => cases hflag
  | reload => cases hflag
  | host =>
    constructor
    · intro h
      exact ⟨.host value, .host value, (Except.ok.inj h).symm⟩
    · rintro ⟨_, ⟨⟩, rfl⟩
      rfl
  | port =>
    constructor
    · intro h
      unfold Options.set at h
      dsimp only at h
      split at h
      · rename_i n hread
        exact ⟨.port n, .port (Numeral.read_eq_ok_iff.mp hread), (Except.ok.inj h).symm⟩
      · cases h
    · rintro ⟨_, hsets, rfl⟩
      cases hsets with
      | port denoted =>
        unfold Options.set
        dsimp only
        rw [Numeral.read_eq_ok_iff.mpr denoted]
        rfl

theorem Sets.takesValue {flag : Flag} {value : String} {setting : Setting}
    (h : Sets flag value setting) : flag.takesValue = true := by
  cases h <;> rfl

theorem Sets.ne_help {flag : Flag} {value : String} {setting : Setting}
    (h : Sets flag value setting) : flag ≠ .help := by
  cases h <;> decide

/-! ### Tokens -/

/-- Tokens of complete options. -/
inductive TokensComplete : List (Token × String) → List Setting → Prop where
  | nil : TokensComplete [] []
  | separate {flag : Flag} {argument value : String} {setting : Setting}
      {tokens : List (Token × String)} {given : List Setting} (sets : Sets flag value setting)
      (rest : TokensComplete tokens given) :
      TokensComplete ((.option flag none, argument) :: (.plain, value) :: tokens)
        (setting :: given)
  | joined {flag : Flag} {attached : Attached} {argument : String} {setting : Setting}
      {tokens : List (Token × String)} {given : List Setting}
      (sets : Sets flag (String.ofList attached.value) setting)
      (rest : TokensComplete tokens given) :
      TokensComplete ((.option flag (some attached), argument) :: tokens) (setting :: given)
  | reload {argument : String} {tokens : List (Token × String)} {given : List Setting}
      (rest : TokensComplete tokens given) :
      TokensComplete ((.option .reload none, argument) :: tokens) (.reload :: given)

theorem tokensComplete_of_readTokens {o o' : Options} {extras : List String}
    {tokens : List (Token × String)} (h : readTokens o extras tokens = .ok (.serve o')) :
    extras = [] ∧ ∃ given, TokensComplete tokens given ∧ o' = given.foldl Options.having o := by
  -- An argument that belongs to nothing is never taken off the extras again.
  fun_induction readTokens o extras tokens with
  | case1 o extras hextras =>
    cases h
    exact ⟨List.isEmpty_iff.mp hextras, [], .nil, rfl⟩
  | case3 o extras flag attached argument rest hvalue next hset ih =>
    obtain ⟨hextras, given, hgiven, rfl⟩ := ih h
    obtain ⟨setting, hsets, rfl⟩ := (Options.set_eq_ok_iff hvalue).mp hset
    exact ⟨hextras, setting :: given, .joined hsets hgiven, rfl⟩
  | case8 o extras argument rest ih =>
    obtain ⟨hextras, given, hgiven, rfl⟩ := ih h
    exact ⟨hextras, .reload :: given, .reload hgiven, rfl⟩
  | case9 o extras flag argument value rest hhelp hreload next hset ih =>
    obtain ⟨hextras, given, hgiven, rfl⟩ := ih h
    have hvalue : flag.takesValue = true := by
      cases flag with
      | help => exact absurd rfl hhelp
      | reload => exact absurd rfl hreload
      | host => rfl
      | port => rfl
    obtain ⟨setting, hsets, rfl⟩ := (Options.set_eq_ok_iff hvalue).mp hset
    exact ⟨hextras, setting :: given, .separate hsets hgiven, rfl⟩
  | case12 o extras token argument rest _ _ _ _ _ ih =>
    obtain ⟨hextras, -⟩ := ih h
    cases hextras
  | case2 | case4 | case5 | case6 | case7 | case10 | case11 => cases h

theorem TokensComplete.readTokens_eq {tokens : List (Token × String)} {given : List Setting}
    (h : TokensComplete tokens given) (o : Options) :
    readTokens o [] tokens = .ok (.serve (given.foldl Options.having o)) := by
  -- On the tokens, for all options that were read before them.
  induction h generalizing o with
  | nil => rfl
  | @separate flag argument value setting tokens given sets rest ih =>
    have hset : o.set flag value = .ok (o.having setting) :=
      (Options.set_eq_ok_iff sets.takesValue).mpr ⟨setting, sets, rfl⟩
    cases sets <;>
    · unfold readTokens
      rw [hset]
      exact ih _
  | @joined flag attached argument setting tokens given sets rest ih =>
    have hset : o.set flag (String.ofList attached.value) = .ok (o.having setting) :=
      (Options.set_eq_ok_iff sets.takesValue).mpr ⟨setting, sets, rfl⟩
    unfold readTokens
    rw [if_pos sets.takesValue, hset]
    exact ih _
  | reload rest ih =>
    unfold readTokens
    exact ih _

/-- **Tokens are read as their grammar says**. -/
theorem readTokens_eq_serve_iff {o o' : Options} {tokens : List (Token × String)} :
    readTokens o [] tokens = .ok (.serve o') ↔
      ∃ given, TokensComplete tokens given ∧ o' = given.foldl Options.having o := by
  constructor
  · intro h
    exact (tokensComplete_of_readTokens h).2
  · rintro ⟨given, hgiven, rfl⟩
    exact hgiven.readTokens_eq o

/-! ### From arguments to tokens -/

theorem tokenize_cons (argument : String) (arguments : List String) :
    tokenize (argument :: arguments) =
      if argument == "--" then
        .ok ((.separator, argument) :: arguments.map fun a => (.plain, a))
      else
        classify argument >>= fun token =>
          tokenize arguments >>= fun tokens => pure ((token, argument) :: tokens) :=
  rfl

theorem tokenize_cons_eq_ok_iff {argument : String} {arguments : List String}
    {tokens : List (Token × String)} :
    tokenize (argument :: arguments) = .ok tokens ↔
      argument = "--" ∧ tokens = (.separator, argument) :: arguments.map (fun a => (.plain, a)) ∨
        argument ≠ "--" ∧ ∃ token rest, classify argument = .ok token ∧
          tokenize arguments = .ok rest ∧ tokens = (token, argument) :: rest := by
  rw [tokenize_cons]
  by_cases h : argument = "--"
  · rw [if_pos (beq_iff_eq.mpr h), Except.ok.injEq, and_iff_right h, or_iff_left (fun h' => h'.1 h)]
    exact eq_comm
  · rw [if_neg (by simpa using h), or_iff_right (fun h' => h h'.1), and_iff_right h, bind_eq_ok_iff]
    constructor
    · rintro ⟨token, hfirst, hrest⟩
      obtain ⟨rest, hrest, heq⟩ := bind_eq_ok_iff.mp hrest
      exact ⟨token, rest, hfirst, hrest, (Except.ok.inj heq).symm⟩
    · rintro ⟨token, rest, hfirst, hrest, rfl⟩
      exact ⟨token, hfirst, bind_eq_ok_iff.mpr ⟨rest, hrest, rfl⟩⟩

/-- Nothing can be said of a separator on its own. -/
theorem ne_separator_of_classify {argument : String} {token : Token}
    (h : classify argument = .ok token) : argument ≠ "--" := by
  rintro rfl
  have hnone : (classify "--").toOption = none := by decide +kernel
  rw [h] at hnone
  cases hnone

theorem tokenize_cons_of_classify {argument : String} {arguments : List String} {token : Token}
    {rest : List (Token × String)} (h : classify argument = .ok token)
    (hrest : tokenize arguments = .ok rest) :
    tokenize (argument :: arguments) = .ok ((token, argument) :: rest) :=
  tokenize_cons_eq_ok_iff.mpr
    (.inr ⟨ne_separator_of_classify h, token, rest, h, hrest, rfl⟩)

/-- A token other than a separator is what its argument is. -/
theorem exists_of_tokenize {arguments : List String} {token : Token} {argument : String}
    {tokens : List (Token × String)} (h : tokenize arguments = .ok ((token, argument) :: tokens))
    (htoken : token ≠ .separator) :
    ∃ rest, arguments = argument :: rest ∧ classify argument = .ok token ∧
      tokenize rest = .ok tokens := by
  cases arguments with
  | nil => cases h
  | cons first rest =>
    rcases tokenize_cons_eq_ok_iff.mp h with ⟨-, heq⟩ | ⟨-, token', tokens', hfirst, hrest, heq⟩
    · cases heq
      exact absurd rfl htoken
    · cases heq
      exact ⟨rest, rfl, hfirst, hrest⟩

/-- The tokens of complete options. -/
theorem AreComplete.exists_tokenize {arguments : List String} {given : List Setting}
    (h : AreComplete arguments given) :
    ∃ tokens, tokenize arguments = .ok tokens ∧ TokensComplete tokens given := by
  induction h with
  | nil => exact ⟨[], rfl, .nil⟩
  | cons first rest ih =>
    obtain ⟨tokens, htokens, hgiven⟩ := ih
    cases first with
    | separate named plain sets =>
      have hname := (classify_eq_option_iff sets.ne_help).mpr ⟨_, named, .inl ⟨rfl, rfl⟩⟩
      have hvalue := classify_eq_plain_iff.mpr plain
      exact ⟨_, tokenize_cons_of_classify hname (tokenize_cons_of_classify hvalue htokens),
        .separate sets hgiven⟩
    | @joined name value flag setting named sets =>
      have hword := (classify_eq_option_iff sets.ne_help).mpr
        ⟨name, named, .inr ⟨value, String.toList_ofList, rfl⟩⟩
      exact ⟨_, tokenize_cons_of_classify hword htokens, .joined sets hgiven⟩
    | reload named =>
      have hname := (classify_eq_option_iff (by decide)).mpr ⟨_, named, .inl ⟨rfl, rfl⟩⟩
      exact ⟨_, tokenize_cons_of_classify hname htokens, .reload hgiven⟩

/-- Arguments with the tokens of complete options are complete options. -/
theorem TokensComplete.areComplete {tokens : List (Token × String)} {given : List Setting}
    (h : TokensComplete tokens given) {arguments : List String}
    (htokens : tokenize arguments = .ok tokens) : AreComplete arguments given := by
  -- A token says what its argument is, so each rule for tokens gives back the rule for arguments.
  induction h generalizing arguments with
  | nil =>
    cases arguments with
    | nil => exact .nil
    | cons argument rest =>
      rcases tokenize_cons_eq_ok_iff.mp htokens with ⟨-, heq⟩ | ⟨-, _, _, -, -, heq⟩
      · cases heq
      · cases heq
  | separate sets rest ih =>
    obtain ⟨_, rfl, hname, hrest⟩ := exists_of_tokenize htokens (by simp)
    obtain ⟨_, rfl, hvalue, hrest⟩ := exists_of_tokenize hrest (by simp)
    obtain ⟨name, named, ⟨rfl, -⟩ | ⟨_, -, hattached⟩⟩ :=
      (classify_eq_option_iff sets.ne_help).mp hname
    · exact .cons (.separate named (classify_eq_plain_iff.mp hvalue) sets) (ih hrest)
    · cases hattached
  | joined sets rest ih =>
    obtain ⟨_, rfl, hword, hrest⟩ := exists_of_tokenize htokens (by simp)
    obtain ⟨name, named, ⟨-, hattached⟩ | ⟨value, heq, hattached⟩⟩ :=
      (classify_eq_option_iff sets.ne_help).mp hword
    · cases hattached
    · cases hattached
      have hcomplete := AreComplete.cons (.joined named sets) (ih hrest)
      rw [← heq, String.ofList_toList] at hcomplete
      exact hcomplete
  | reload rest ih =>
    obtain ⟨_, rfl, hname, hrest⟩ := exists_of_tokenize htokens (by simp)
    obtain ⟨name, named, ⟨rfl, -⟩ | ⟨_, -, hattached⟩⟩ :=
      (classify_eq_option_iff (by decide)).mp hname
    · exact .cons (.reload named) (ih hrest)
    · cases hattached

/-- **The arguments that are accepted, and what they ask for**. -/
theorem parse_eq_serve_iff {arguments : List String} {o : Options} :
    parse arguments = .ok (.serve o) ↔ ∃ given, AreComplete arguments given ∧ o = asked given := by
  unfold parse
  rw [bind_eq_ok_iff]
  simp only [readTokens_eq_serve_iff, foldl_having]
  constructor
  · rintro ⟨tokens, htokens, given, hgiven, rfl⟩
    exact ⟨given, hgiven.areComplete htokens, rfl⟩
  · rintro ⟨given, hgiven, rfl⟩
    obtain ⟨tokens, htokens, hcomplete⟩ := hgiven.exists_tokenize
    exact ⟨tokens, htokens, given, hcomplete, rfl⟩

end CardHealth.CommandLine
