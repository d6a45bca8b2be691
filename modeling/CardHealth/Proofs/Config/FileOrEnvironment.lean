import CardHealth.Proofs.Config.DotEnv.File
import CardHealth.Proofs.Config.Settings

/-!
# A variable file in place of variables

Texts can be given to the service in its environment or in a file of quoted values.  The settings
are then the same, or what is wrong with them is (`file_configures_like_environment`).  The file is
asked after the environment, but no setting has a value in both: none of the names in the file is in
the environment before, in any letter case.
-/

namespace CardHealth.Config.Settings

open DotEnv (Line fileOf assigned)

section Sources

variable {environment given set : List (String × String)} {name : String}

/-- What a file gives under a name is what its assignments give in any order. -/
theorem join_lastNamed?_foldNames (hdistinct : (given.map fun v => Text.lower v.1).Nodup)
    (hset : set.Perm given) (name : String) :
    (lastNamed? name (foldNames (given.map fun v => (v.1, some v.2)))).join =
      lastNamed? name (foldNames set) := by
  have hset' : (set.map fun v => Text.lower v.1).Nodup := (hset.map _).nodup_iff.mpr hdistinct
  have hgiven : ((given.map fun v => (v.1, some v.2)).map fun v => Text.lower v.1).Nodup := by
    rw [List.map_map]
    exact hdistinct
  ext s
  rw [Option.join_eq_some_iff, lastNamed?_foldNames_eq_some_iff_of_nodup hgiven,
    lastNamed?_foldNames_eq_some_iff_of_nodup hset']
  constructor
  · rintro ⟨n, hmem, hname⟩
    obtain ⟨⟨m, t⟩, hgiven, heq⟩ := List.mem_map.mp hmem
    obtain ⟨rfl, hs⟩ := Prod.mk.inj heq
    obtain rfl := Option.some.inj hs
    exact ⟨m, hset.mem_iff.mpr hgiven, hname⟩
  · rintro ⟨n, hmem, hname⟩
    exact ⟨n, List.mem_map.mpr ⟨(n, s), hset.mem_iff.mp hmem, rfl⟩, hname⟩

/-- Variables that are set beside others of other names come before or after them alike. -/
theorem lastNamed?_foldNames_append
    (hfree : ∀ v ∈ environment, ∀ w ∈ set, Text.lower v.1 ≠ Text.lower w.1) :
    lastNamed? name (foldNames (environment ++ set)) =
      (lastNamed? name (foldNames environment)).or (lastNamed? name (foldNames set)) := by
  have hfold : foldNames (environment ++ set) = foldNames environment ++ foldNames set :=
    foldNames_append fun v hv w hw hname => hfree v hv w hw (congrArg Text.lower hname)
  rw [hfold, lastNamed?_append]
  by_cases hset : ∃ w ∈ set, Text.lower w.1 = name
  · obtain ⟨w, hw, rfl⟩ := hset
    have hnone : lastNamed? (Text.lower w.1) (foldNames environment) = none :=
      lastNamed?_foldNames_eq_none_iff.mpr fun v hv => hfree v hv w hw
    rw [hnone, Option.or_none, Option.none_or]
  · have hnone : lastNamed? name (foldNames set) = none :=
      lastNamed?_foldNames_eq_none_iff.mpr fun w hw hname => hset ⟨w, hw, hname⟩
    rw [hnone, Option.or_none, Option.none_or]

end Sources

/-- **A file of quoted values configures like the environment**.

Let a file have plain lines that assign texts to variables, any one of them at most once in any
letter case.  Then it is read as just these assignments.  Settings that are read with it are those
for an environment in which the same texts are set in any order beside the variables that it has,
without a file; and they are refused for the same faults. -/
theorem file_configures_like_environment (arguments : List (String × Value))
    {environment set : List (String × String)} {lines : List Line}
    (hplain : ∀ line ∈ lines, line.IsPlain)
    (hdistinct : ((assigned lines).map fun v => Text.lower v.1).Nodup)
    (hset : set.Perm (assigned lines))
    (hfree : ∀ v ∈ environment, ∀ w ∈ set, Text.lower v.1 ≠ Text.lower w.1) :
    DotEnv.read environment (fileOf lines) =
        .ok ((assigned lines).map fun v => (v.1, some v.2)) ∧
      read arguments environment (fileOf lines) = read arguments (environment ++ set) [] := by
  have hfile := DotEnv.read_fileOf hplain environment
  have hnone : DotEnv.read (environment ++ set) (fileOf []) = .ok [] :=
    DotEnv.read_fileOf (List.forall_mem_nil _) _
  refine ⟨hfile, read_congr hnone hfile fun f => ?_⟩
  -- An argument counts in both; else the file is asked after the environment on one side.
  have hjoin := join_lastNamed?_foldNames hdistinct hset (variablePrefix ++ f.name)
  have hmissing : (lastNamed? (variablePrefix ++ f.name)
      (foldNames ([] : List (String × Option String)))).join = none := rfl
  unfold Sources.value?
  dsimp only
  rw [lastNamed?_foldNames_append hfree, hjoin, hmissing]
  cases argument? arguments f.name with
  | some value => rfl
  | none =>
    cases lastNamed? (variablePrefix ++ f.name) (foldNames environment) with
    | some s => rfl
    | none => cases lastNamed? (variablePrefix ++ f.name) (foldNames set) <;> rfl

/-- A file with every kind of line.  Its values hold quotes, a hash mark, a line break and what
looks like an assignment, and the first one ends in a backslash. -/
def quotedLines : List Line :=
  [.assignment "CARDMONITOR_MYSQL_PASSWORD" "p'\\", .comment "  " " the service's settings",
   .assignment "CARDMONITOR_API_HOST" "it's # \\'x", .blank "\t",
   .assignment "CardMonitor_Log_Level" "a\nCARDMONITOR_API_PORT='1'", .comment "" "", .blank ""]

/-- The same variables in another order. -/
def quotedVariables : List (String × String) :=
  [("CARDMONITOR_API_HOST", "it's # \\'x"), ("CARDMONITOR_MYSQL_PASSWORD", "p'\\"),
   ("CardMonitor_Log_Level", "a\nCARDMONITOR_API_PORT='1'")]

/-- The settings that they give to a service. -/
def quotedSettings : Settings :=
  { mysqlHost := "db", apiHost := "it's # \\'x", mysqlPassword := "p'\\",
    logLevel := "a\nCARDMONITOR_API_PORT='1'" }

theorem file_configures_like_environment_small :
    DotEnv.read [("CARDMONITOR_MYSQL_HOST", "db")] (fileOf quotedLines) =
        .ok ((assigned quotedLines).map fun v => (v.1, some v.2)) ∧
      read [] [("CARDMONITOR_MYSQL_HOST", "db")] (fileOf quotedLines) = .ok quotedSettings := by
  have hset : quotedVariables.Perm (assigned quotedLines) := by decide
  have hread : read [] ([("CARDMONITOR_MYSQL_HOST", "db")] ++ quotedVariables) [] =
      .ok quotedSettings := eq_ok_of_toOption_eq_some (by decide +kernel)
  have hfree : ∀ v ∈ [("CARDMONITOR_MYSQL_HOST", "db")], ∀ w ∈ quotedVariables,
      Text.lower v.1 ≠ Text.lower w.1 := by decide +kernel
  obtain ⟨hfile, hsame⟩ :=
    file_configures_like_environment [] (by decide) (by decide +kernel) hset hfree
  exact ⟨hfile, hsame.trans hread⟩

end CardHealth.Config.Settings
