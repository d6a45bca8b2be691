import CardHealth.Proofs.CommandLine.Parse
import CardHealth.Proofs.Log

/-!
# Runs of the program

A run does one of three things, and the arguments and the root logger decide which: it ends with
help or a usage error, it is stopped by a log level that is unknown, or it starts the server once.
`run_does_one_of_three` says when, and with what the server is started.

Since the last option of a name counts, two options of different names may change places unless one
of them gets behind an option of its own name that asks for something else (`lastOf_swap`).
-/

namespace CardHealth.CommandLine

/-! ### Options that change places -/

/-- The last option of a name. -/
def lastOf (flag : Flag) (given : List Setting) : Option Setting :=
  (given.filter (·.flag = flag)).getLast?

theorem lastOf_append (flag : Flag) (given later : List Setting) :
    lastOf flag (given ++ later) = (lastOf flag later).or (lastOf flag given) := by
  unfold lastOf
  rw [List.filter_append, List.getLast?_append]

theorem lastOf_cons_of_eq {flag : Flag} {setting : Setting} (h : setting.flag = flag)
    (later : List Setting) :
    lastOf flag (setting :: later) = (lastOf flag later).or (some setting) := by
  have hone : lastOf flag [setting] = some setting := by simp [lastOf, h]
  have happend := lastOf_append flag [setting] later
  rwa [hone, List.singleton_append] at happend

theorem lastOf_cons_of_ne {flag : Flag} {setting : Setting} (h : setting.flag ≠ flag)
    (later : List Setting) : lastOf flag (setting :: later) = lastOf flag later := by
  simp [lastOf, h]

/-- What is asked for is what the last options of the three names ask for. -/
theorem asked_eq (given : List Setting) :
    asked given =
      { host := (lastOf .host given).bind Setting.host?
        port := (lastOf .port given).bind Setting.port?
        reload := (lastOf .reload given).isSome } := by
  induction given using List.reverseRecOn with
  | nil => rfl
  | append_singleton given setting ih =>
    rw [asked_concat, ih]
    cases setting <;>
      simp [lastOf, Setting.flag, Options.having, Setting.host?, Setting.port?]

theorem asked_congr {given others : List Setting}
    (h : ∀ flag, lastOf flag others = lastOf flag given) : asked others = asked given := by
  rw [asked_eq, asked_eq, h, h, h]

/-- It makes no difference on which side of some options another one stands: there is one of its
name after all of them, or the last one of its name among them asks for the same. -/
def IsFree (setting : Setting) (between after : List Setting) : Prop :=
  (lastOf setting.flag after).isSome = true ∨
    ∀ other ∈ lastOf setting.flag between, other = setting

theorem IsFree.or_eq {setting : Setting} {between after : List Setting}
    (h : IsFree setting between after) (rest : Option Setting) :
    (lastOf setting.flag after).or ((lastOf setting.flag between).or ((some setting).or rest)) =
      (lastOf setting.flag after).or
        ((some setting).or ((lastOf setting.flag between).or rest)) := by
  rcases h with hafter | hbetween
  · obtain ⟨last, hlast⟩ := Option.isSome_iff_exists.mp hafter
    rw [hlast]
    rfl
  · cases hlast : lastOf setting.flag between with
    | none => rfl
    | some other =>
      obtain rfl := hbetween other hlast
      rfl

/-- **Options of different names that are free may change places**. -/
theorem lastOf_swap {before between after : List Setting} {first second : Setting}
    (hflag : first.flag ≠ second.flag) (hfirst : IsFree first between after)
    (hsecond : IsFree second between after) (flag : Flag) :
    lastOf flag (before ++ second :: (between ++ first :: after)) =
      lastOf flag (before ++ first :: (between ++ second :: after)) := by
  -- The last option of a name can be another one only if it is the name of one of the two.
  by_cases hone : first.flag = flag
  · have htwo : second.flag ≠ flag := by
      intro h
      exact hflag (hone.trans h.symm)
    subst hone
    have hfree := hfirst.or_eq (lastOf first.flag before)
    simp only [lastOf_append, lastOf_cons_of_eq, lastOf_cons_of_ne htwo, Option.or_assoc]
    exact hfree.symm
  · by_cases htwo : second.flag = flag
    · subst htwo
      have hfree := hsecond.or_eq (lastOf second.flag before)
      simp only [lastOf_append, lastOf_cons_of_eq, lastOf_cons_of_ne hone, Option.or_assoc]
      exact hfree
    · simp only [lastOf_append, lastOf_cons_of_ne hone, lastOf_cons_of_ne htwo]

/-! ### The three kinds of runs -/

variable {settings : Config.Settings} {root : Log.Root} {arguments : List String}
variable {given : List Setting}

/-- The starts of the server. -/
def Outcome.launches : Outcome → List Launch
  | .launched launch => [launch]
  | _ => []

theorem run_congr {others : List String} (h : parse others = parse arguments) :
    run settings root others = run settings root arguments := by
  unfold run
  rw [h]

/-- Arguments that are not complete end the program before it does anything. -/
theorem run_of_not_areComplete (settings : Config.Settings) (root : Log.Root)
    (h : ∀ given, ¬AreComplete arguments given) :
    ((run settings root arguments).outcome = .helpShown ∨
      ∃ e, (run settings root arguments).outcome = .wrongUsage e) ∧
      (run settings root arguments).root = root ∧ (run settings root arguments).entries = [] := by
  unfold run
  cases hparse : parse arguments with
  | error e => exact ⟨.inr ⟨e, rfl⟩, rfl, rfl⟩
  | ok request =>
    cases request with
    | help => exact ⟨.inl rfl, rfl, rfl⟩
    | serve o =>
      obtain ⟨given, hgiven, -⟩ := parse_eq_serve_iff.mp hparse
      exact absurd hgiven (h given)

/-- With complete arguments, it is for the log level to stop the program. -/
theorem outcome_of_areComplete (h : AreComplete arguments given) :
    (run settings root arguments).outcome =
      match (Log.configure root settings.logLevel).2 with
      | some e => .unknownLevel e
      | none => .launched (launchFor settings (asked given)) := by
  unfold run
  rw [parse_eq_serve_iff.mpr ⟨given, h, rfl⟩]
  dsimp only
  split
  · rename_i hconfigure
    rw [hconfigure]
  · rename_i hconfigure
    rw [hconfigure]

/-- When a level stops the program: nothing has set the root logger up, and the level is unknown. -/
theorem configure_snd_cases (root : Log.Root) (level : String) :
    (root.handlers = 0 ∧ Log.levelNumber? level = none ∧
      (Log.configure root level).2 = some ⟨Text.upper level⟩) ∨
    (root.handlers ≠ 0 ∨ (Log.levelNumber? level).isSome = true) ∧
      (Log.configure root level).2 = none := by
  by_cases hroot : root.handlers = 0
  · unfold Log.configure
    rw [if_pos hroot]
    cases hlevel : Log.levelNumber? level with
    | none =>
      have hlookup : Log.levels.lookup (Text.upper level) = none := hlevel
      exact .inl ⟨hroot, rfl, by simp only [hlookup]⟩
    | some n =>
      have hlookup : Log.levels.lookup (Text.upper level) = some n := hlevel
      exact .inr ⟨.inr rfl, by simp only [hlookup]⟩
  · rw [Log.configure_of_handlers hroot]
    exact .inr ⟨.inl hroot, rfl⟩

/-- Complete options of different names that are free may change places. -/
theorem run_swap {before words between others after : List String}
    {earlier middle later : List Setting} {first second : Setting}
    (hbefore : AreComplete before earlier) (hfirst : IsComplete words first)
    (hbetween : AreComplete between middle) (hsecond : IsComplete others second)
    (hafter : AreComplete after later) (hflag : first.flag ≠ second.flag)
    (hfreeFirst : IsFree first middle later) (hfreeSecond : IsFree second middle later) :
    run settings root (before ++ (others ++ (between ++ (words ++ after)))) =
      run settings root (before ++ (words ++ (between ++ (others ++ after)))) := by
  have hasked : asked (earlier ++ second :: (middle ++ first :: later)) =
      asked (earlier ++ first :: (middle ++ second :: later)) :=
    asked_congr (lastOf_swap hflag hfreeFirst hfreeSecond)
  have horder : AreComplete (before ++ (words ++ (between ++ (others ++ after))))
      (earlier ++ first :: (middle ++ second :: later)) :=
    hbefore.append (.cons hfirst (hbetween.append (.cons hsecond hafter)))
  have hswapped : AreComplete (before ++ (others ++ (between ++ (words ++ after))))
      (earlier ++ second :: (middle ++ first :: later)) :=
    hbefore.append (.cons hsecond (hbetween.append (.cons hfirst hafter)))
  apply run_congr
  rw [parse_eq_serve_iff.mpr ⟨_, horder, rfl⟩, parse_eq_serve_iff.mpr ⟨_, hswapped, rfl⟩, hasked]

/-- **A run does exactly one of three things**.

* Arguments that are not complete options end it with status 0 for help and 2 for a usage error.
  The server is not started, nothing is logged, and the root logger is as it was.
* With complete options and a root logger without handlers, a level that is unknown stops it before
  the server is started.
* Otherwise the server is started once: at the last host and the last port that are given, else at
  those of the settings, with a reload if one is given, and with the level in small letters.

Two complete options of different names may change places if each of them is free to. -/
theorem run_does_one_of_three :
    (∀ (settings : Config.Settings) (root : Log.Root) (arguments : List String),
      (∀ given, ¬AreComplete arguments given) →
      ((run settings root arguments).outcome = .helpShown ∧
          (run settings root arguments).outcome.exitCode? = some 0 ∨
        (∃ e, (run settings root arguments).outcome = .wrongUsage e) ∧
          (run settings root arguments).outcome.exitCode? = some 2) ∧
      (run settings root arguments).outcome.launches = [] ∧
      (run settings root arguments).root = root ∧ (run settings root arguments).entries = []) ∧
    (∀ (settings : Config.Settings) (root : Log.Root) (arguments : List String)
      (given : List Setting), AreComplete arguments given →
      (root.handlers = 0 ∧ Log.levelNumber? settings.logLevel = none →
        (run settings root arguments).outcome = .unknownLevel ⟨Text.upper settings.logLevel⟩ ∧
        (run settings root arguments).outcome.launches = []) ∧
      (root.handlers ≠ 0 ∨ (Log.levelNumber? settings.logLevel).isSome = true →
        (run settings root arguments).outcome.launches =
          [{ host := (given.filterMap Setting.host?).getLast?.getD settings.apiHost
             port := (given.filterMap Setting.port?).getLast?.getD settings.apiPort
             reload := decide (.reload ∈ given)
             logLevel := Text.lower settings.logLevel }])) ∧
    ∀ (settings : Config.Settings) (root : Log.Root) (before words between others after)
      (earlier middle later) (first second : Setting), AreComplete before earlier →
      IsComplete words first → AreComplete between middle → IsComplete others second →
      AreComplete after later → first.flag ≠ second.flag → IsFree first middle later →
      IsFree second middle later →
      run settings root (before ++ (others ++ (between ++ (words ++ after)))) =
        run settings root (before ++ (words ++ (between ++ (others ++ after)))) := by
  refine ⟨?_, ?_, ?_⟩
  · intro settings root arguments h
    obtain ⟨houtcome, hroot, hentries⟩ := run_of_not_areComplete settings root h
    rcases houtcome with hhelp | ⟨e, he⟩
    · refine ⟨.inl ⟨hhelp, ?_⟩, ?_, hroot, hentries⟩
      · rw [hhelp]
        rfl
      · rw [hhelp]
        rfl
    · refine ⟨.inr ⟨⟨e, he⟩, ?_⟩, ?_, hroot, hentries⟩
      · rw [he]
        rfl
      · rw [he]
        rfl
  · intro settings root arguments given h
    rw [outcome_of_areComplete h]
    rcases configure_snd_cases root settings.logLevel with
      ⟨hroot, hlevel, hconfigure⟩ | ⟨hready, hconfigure⟩
    · rw [hconfigure]
      refine ⟨fun _ => ⟨rfl, rfl⟩, ?_⟩
      rintro (hhandlers | hknown)
      · exact absurd hroot hhandlers
      · rw [hlevel] at hknown
        cases hknown
    · rw [hconfigure]
      refine ⟨?_, fun _ => rfl⟩
      rintro ⟨hroot, hlevel⟩
      rcases hready with hhandlers | hknown
      · exact absurd hroot hhandlers
      · rw [hlevel] at hknown
        cases hknown
  · intro settings root before words between others after earlier middle later first second
      hbefore hfirst hbetween hsecond hafter hflag hfreeFirst hfreeSecond
    exact run_swap hbefore hfirst hbetween hsecond hafter hflag hfreeFirst hfreeSecond

theorem isComplete_host {value : String} (plain : IsPlain value.toList) :
    IsComplete ["--host", value] (.host value) :=
  .separate ⟨"--host", by decide, List.prefix_rfl, by decide⟩ plain (.host value)

theorem isComplete_port {value : String} {n : Int} (plain : IsPlain value.toList)
    (denoted : Numeral.Denotes value.toList n) : IsComplete ["--port", value] (.port n) :=
  .separate ⟨"--port", by decide, List.prefix_rfl, by decide⟩ plain (.port denoted)

theorem isComplete_reload : IsComplete ["--reload"] .reload :=
  .reload ⟨"--reload", by decide, List.prefix_rfl, by decide⟩

theorem run_does_one_of_three_small :
    (run {} .initial ["--host", "a", "--h"]).outcome.launches = [] ∧
    (run {} .initial ["--ho=b", "--port", "5", "--host", "a"]).outcome.launches =
      [{ host := "a", port := 5, reload := false, logLevel := "info" }] ∧
    (run { logLevel := "loud" } .initial ["--reload"]).outcome = .unknownLevel ⟨"LOUD"⟩ ∧
    run {} .initial ["--reload", "--host", "a"] = run {} .initial ["--host", "a", "--reload"] := by
  obtain ⟨hother, hcomplete, hswap⟩ := run_does_one_of_three
  have hreload : AreComplete ["--reload"] [.reload] := .singleton isComplete_reload
  have hhost : IsComplete ["--host", "a"] (.host "a") := isComplete_host (.inl (by decide))
  have hport : IsComplete ["--port", "5"] (.port 5) :=
    isComplete_port (.inl (by decide)) (Numeral.read_eq_ok_iff.mp rfl)
  have hshort : IsComplete [String.ofList ("--ho".toList ++ '=' :: ['b'])] (.host "b") :=
    .joined ⟨"--host", by decide, by decide, by decide⟩ (.host "b")
  refine ⟨?_, ?_, ?_, ?_⟩
  · -- The last argument could be the option for help.
    have hparse : (parse ["--host", "a", "--h"]).toOption = none := by decide +kernel
    refine (hother {} .initial _ ?_).2.1
    intro given hgiven
    rw [parse_eq_serve_iff.mpr ⟨given, hgiven, rfl⟩] at hparse
    cases hparse
  · have hgiven := AreComplete.cons hshort (.cons hport (.singleton hhost))
    exact (hcomplete {} .initial _ _ hgiven).2 (.inr (by decide))
  · exact ((hcomplete { logLevel := "loud" } .initial _ _ hreload).1 (by decide)).1
  · exact hswap {} .initial [] ["--host", "a"] [] ["--reload"] [] [] [] [] (.host "a") .reload .nil
      hhost .nil isComplete_reload .nil (by decide) (.inr (by simp [lastOf]))
      (.inr (by simp [lastOf]))

/-- An option that gets behind another one of its name is not free. -/
theorem not_forall_run_swap :
    ¬∀ (settings : Config.Settings) (root : Log.Root) (before words between others after)
      (earlier middle later) (first second : Setting), AreComplete before earlier →
      IsComplete words first → AreComplete between middle → IsComplete others second →
      AreComplete after later → first.flag ≠ second.flag →
      (run settings root (before ++ (words ++ (between ++ (others ++ after))))).outcome.launches ≠
        [] →
      run settings root (before ++ (others ++ (between ++ (words ++ after)))) =
        run settings root (before ++ (words ++ (between ++ (others ++ after)))) := by
  intro h
  have hport : IsComplete ["--port", "1"] (.port 1) :=
    isComplete_port (.inl (by decide)) (Numeral.read_eq_ok_iff.mp rfl)
  have hbetween : AreComplete ["--host", "a"] [.host "a"] :=
    .singleton (isComplete_host (.inl (by decide)))
  have hhost : IsComplete ["--host", "b"] (.host "b") := isComplete_host (.inl (by decide))
  have hswapped := h {} .initial [] ["--port", "1"] ["--host", "a"] ["--host", "b"] [] [] _ [] _ _
    .nil hport hbetween hhost .nil (by decide) (by decide +kernel)
  have hdiffer : run {} .initial ["--host", "b", "--host", "a", "--port", "1"] ≠
      run {} .initial ["--port", "1", "--host", "a", "--host", "b"] := by
    decide +kernel
  exact hdiffer hswapped

end CardHealth.CommandLine
