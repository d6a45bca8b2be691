import CardHealth.Config.Settings
import CardHealth.Proofs.Entries
import CardHealth.Proofs.Text.LetterCase
import CardHealth.Proofs.Validation
import Mathlib.Data.List.Nodup

/-!
# Which source a setting is taken from

`Winner` says of each setting which of the sources decides it, and what it says: an argument, or
else a variable of the environment, or else the variable file, or else nothing, which leaves the
default.  The settings are a function of what the winners say, each of them checked on its own
(`settings_from_first_source`); what other sources hold is never looked at.
-/

namespace CardHealth.Config.Settings

/-! ### The settings one by one -/

/-- A setting. -/
inductive Field where
  | appName
  | apiHost
  | apiPort
  | mysqlHost
  | mysqlUser
  | mysqlPassword
  | mysqlDbname
  | mysqlPort
  | mysqlConnectTimeout
  | databaseUrl
  | logLevel
  deriving DecidableEq

namespace Field

/-- The settings in their order. -/
def all : List Field :=
  [.appName, .apiHost, .apiPort, .mysqlHost, .mysqlUser, .mysqlPassword, .mysqlDbname, .mysqlPort,
    .mysqlConnectTimeout, .databaseUrl, .logLevel]

/-- The name of a setting. -/
def name : Field → String
  | .appName => "app_name"
  | .apiHost => "api_host"
  | .apiPort => "api_port"
  | .mysqlHost => "mysql_host"
  | .mysqlUser => "mysql_user"
  | .mysqlPassword => "mysql_password"
  | .mysqlDbname => "mysql_dbname"
  | .mysqlPort => "mysql_port"
  | .mysqlConnectTimeout => "mysql_connect_timeout"
  | .databaseUrl => "database_url"
  | .logLevel => "log_level"

/-- The variable that gives a setting. -/
def variableName (f : Field) : String :=
  variablePrefix ++ f.name

/-- Checks a value for a setting. -/
def check (f : Field) (value : Value) : Except Fault Value :=
  match f with
  | .apiPort | .mysqlPort | .mysqlConnectTimeout => value.toInt.map .int
  | .databaseUrl => (checkOptionalText value).map fun s => (s.map .text).getD .null
  | _ => value.toText.map .text

end Field

/-- The value of one of the settings. -/
def get (s : Settings) : Field → Value
  | .appName => .text s.appName
  | .apiHost => .text s.apiHost
  | .apiPort => .int s.apiPort
  | .mysqlHost => .text s.mysqlHost
  | .mysqlUser => .text s.mysqlUser
  | .mysqlPassword => .text s.mysqlPassword
  | .mysqlDbname => .text s.mysqlDbname
  | .mysqlPort => .int s.mysqlPort
  | .mysqlConnectTimeout => .int s.mysqlConnectTimeout
  | .databaseUrl => (s.databaseUrl.map .text).getD .null
  | .logLevel => .text s.logLevel

/-- What becomes of a setting for which a source has a value, or none has. -/
def Field.settle (f : Field) : Option Value → Except Fault Value
  | some value => f.check value
  | none => .ok (({} : Settings).get f)

/-- What is wrong with the settings for which sources have these values, in order. -/
def faults (found : Field → Option Value) : List FieldFault :=
  Field.all.filterMap fun f =>
    (faultOf? (f.settle (found f))).map fun fault => ⟨some f.name, fault⟩

theorem faults_eq (found : Field → Option Value) :
    faults found =
      collectFaults (Field.all.map fun f => (f.name, faultOf? (f.settle (found f)))) := by
  rw [faults, collectFaults, List.filterMap_map]
  rfl

variable {sources : Sources}

section Load

variable {α : Type} {check : Value → Except Fault α} {wrap : α → Value} {default : α}

/-- A setting of any type, as a value. -/
theorem settle_eq_map {f : Field} (hcheck : ∀ value, f.check value = (check value).map wrap)
    (hdefault : ({} : Settings).get f = wrap default) :
    f.settle (sources.value? f.name) = (sources.setting f.name check default).map wrap := by
  unfold Sources.setting Field.settle
  cases sources.value? f.name with
  | none => rw [hdefault]; rfl
  | some value => exact hcheck value

end Load

/-- The settings as the loader settles them. -/
theorem settle_value? (sources : Sources) (f : Field) :
    f.settle (sources.value? f.name) =
      let standard : Settings := {}
      match f with
      | .appName => (sources.setting "app_name" Value.toText standard.appName).map .text
      | .apiHost => (sources.setting "api_host" Value.toText standard.apiHost).map .text
      | .apiPort => (sources.setting "api_port" Value.toInt standard.apiPort).map .int
      | .mysqlHost => (sources.setting "mysql_host" Value.toText standard.mysqlHost).map .text
      | .mysqlUser => (sources.setting "mysql_user" Value.toText standard.mysqlUser).map .text
      | .mysqlPassword =>
        (sources.setting "mysql_password" Value.toText standard.mysqlPassword).map .text
      | .mysqlDbname => (sources.setting "mysql_dbname" Value.toText standard.mysqlDbname).map .text
      | .mysqlPort => (sources.setting "mysql_port" Value.toInt standard.mysqlPort).map .int
      | .mysqlConnectTimeout =>
        (sources.setting "mysql_connect_timeout" Value.toInt standard.mysqlConnectTimeout).map .int
      | .databaseUrl =>
        (sources.setting "database_url" checkOptionalText standard.databaseUrl).map fun s =>
          (s.map .text).getD .null
      | .logLevel => (sources.setting "log_level" Value.toText standard.logLevel).map .text := by
  cases f <;> exact settle_eq_map (fun _ => rfl) rfl

/-- **The settings are those that are settled one by one**: they are there if nothing is wrong with
any of them, and else refused for all that is wrong. -/
theorem load_cases (sources : Sources) :
    (∃ s, load sources = .ok s ∧ ∀ f : Field, f.settle (sources.value? f.name) = .ok (s.get f)) ∨
      (∃ (f : Field) (fault : Fault), f.settle (sources.value? f.name) = .error fault) ∧
        load sources = .error ⟨"Settings", faults fun f => sources.value? f.name⟩ := by
  have hsettle := settle_value? sources
  unfold load
  dsimp only
  split
  · left
    refine ⟨_, rfl, fun f => ?_⟩
    rw [hsettle]
    cases f <;> simp [*, get, Except.map]
  · rename_i hnot
    right
    constructor
    · -- If nothing were wrong with any of them, there would have been settings.
      by_contra hnone
      push Not at hnone
      have hok (f : Field) : ∃ v, f.settle (sources.value? f.name) = .ok v := by
        cases h : f.settle (sources.value? f.name) with
        | ok v => exact ⟨v, rfl⟩
        | error fault => exact absurd h (hnone f fault)
      simp only [hsettle] at hok
      obtain ⟨_, happName⟩ := exists_map_eq_ok_iff.mp (hok .appName)
      obtain ⟨_, hapiHost⟩ := exists_map_eq_ok_iff.mp (hok .apiHost)
      obtain ⟨_, hapiPort⟩ := exists_map_eq_ok_iff.mp (hok .apiPort)
      obtain ⟨_, hmysqlHost⟩ := exists_map_eq_ok_iff.mp (hok .mysqlHost)
      obtain ⟨_, hmysqlUser⟩ := exists_map_eq_ok_iff.mp (hok .mysqlUser)
      obtain ⟨_, hmysqlPassword⟩ := exists_map_eq_ok_iff.mp (hok .mysqlPassword)
      obtain ⟨_, hmysqlDbname⟩ := exists_map_eq_ok_iff.mp (hok .mysqlDbname)
      obtain ⟨_, hmysqlPort⟩ := exists_map_eq_ok_iff.mp (hok .mysqlPort)
      obtain ⟨_, htimeout⟩ := exists_map_eq_ok_iff.mp (hok .mysqlConnectTimeout)
      obtain ⟨_, hdatabaseUrl⟩ := exists_map_eq_ok_iff.mp (hok .databaseUrl)
      obtain ⟨_, hlogLevel⟩ := exists_map_eq_ok_iff.mp (hok .logLevel)
      exact hnot _ _ _ _ _ _ _ _ _ _ _ happName hapiHost hapiPort hmysqlHost hmysqlUser
        hmysqlPassword hmysqlDbname hmysqlPort htimeout hdatabaseUrl hlogLevel
    · rw [faults_eq]
      simp only [Field.all, List.map_cons, List.map_nil, hsettle, faultOf?_map]
      rfl

theorem eq_of_get {s t : Settings} (h : ∀ f, s.get f = t.get f) : s = t := by
  -- Only an address that is not given is null.
  have hurl : s.databaseUrl = t.databaseUrl := by
    have hget : (s.databaseUrl.map Value.text).getD .null = (t.databaseUrl.map .text).getD .null :=
      h .databaseUrl
    generalize s.databaseUrl = url, t.databaseUrl = other at hget ⊢
    cases url <;> cases other <;> simp_all
  obtain ⟨⟩ := s
  obtain ⟨⟩ := t
  obtain rfl := hurl
  obtain rfl := Value.text.inj (h .appName)
  obtain rfl := Value.text.inj (h .apiHost)
  obtain rfl := Value.int.inj (h .apiPort)
  obtain rfl := Value.text.inj (h .mysqlHost)
  obtain rfl := Value.text.inj (h .mysqlUser)
  obtain rfl := Value.text.inj (h .mysqlPassword)
  obtain rfl := Value.text.inj (h .mysqlDbname)
  obtain rfl := Value.int.inj (h .mysqlPort)
  obtain rfl := Value.int.inj (h .mysqlConnectTimeout)
  obtain rfl := Value.text.inj (h .logLevel)
  rfl

/-! ### Names in any letter case -/

section Names

variable {α : Type} {entries : List (String × α)} {name : String}

/-- Entries as a mapping: of those with one name, one is left, in the place of the first and with
the value of the last. -/
def mapping (entries : List (String × α)) : List (String × α) :=
  (entries.map (·.1)).eraseDups.filterMap fun name => (lastNamed? name entries).map (name, ·)

theorem foldNames_eq (entries : List (String × α)) :
    foldNames entries = (mapping entries).map fun entry => (Text.lower entry.1, entry.2) := by
  rw [foldNames, mapping, List.map_filterMap]
  congr 1
  funext name
  cases lastNamed? name entries <;> rfl

theorem mem_mapping_iff {a : α} :
    (name, a) ∈ mapping entries ↔ lastNamed? name entries = some a := by
  simp only [mapping, List.mem_filterMap, List.mem_eraseDups, Option.map_eq_some_iff,
    Prod.mk.injEq]
  constructor
  · rintro ⟨_, -, _, h, rfl, rfl⟩
    exact h
  · intro h
    exact ⟨name, List.mem_map.mpr ⟨_, mem_of_lastNamed? h, rfl⟩, a, h, rfl, rfl⟩

/-- The value under a name in any letter case is that of the last entry of the mapping with such a
name. -/
def LastFolded (name : String) (entries : List (String × α)) (a : α) : Prop :=
  ∃ earlier n later, mapping entries = earlier ++ (n, a) :: later ∧ Text.lower n = name ∧
    ∀ entry ∈ later, Text.lower entry.1 ≠ name

theorem LastFolded.exists_mem {a : α} (h : LastFolded name entries a) :
    ∃ n, (n, a) ∈ entries ∧ Text.lower n = name := by
  obtain ⟨earlier, n, later, hmapping, hname, -⟩ := h
  exact ⟨n, mem_of_lastNamed? (mem_mapping_iff.mp (by rw [hmapping]; simp)), hname⟩

theorem lastNamed?_foldNames_eq_some_iff {a : α} :
    lastNamed? name (foldNames entries) = some a ↔ LastFolded name entries a := by
  rw [lastNamed?_eq_some_iff, foldNames_eq]
  constructor
  · rintro ⟨earlier, later, hsplit, hlater⟩
    obtain ⟨before, rest, hmapping, rfl, hrest⟩ := List.map_eq_append_iff.mp hsplit
    obtain ⟨⟨n, b⟩, after, rfl, hentry, rfl⟩ := List.map_eq_cons_iff.mp hrest
    obtain ⟨rfl, rfl⟩ := Prod.mk.inj hentry
    refine ⟨before, n, after, hmapping, rfl, fun entry hmem => ?_⟩
    exact hlater _ (List.mem_map_of_mem hmem)
  · rintro ⟨earlier, n, later, hmapping, rfl, hlater⟩
    refine ⟨_, _, by rw [hmapping, List.map_append, List.map_cons], fun entry hmem => ?_⟩
    obtain ⟨found, hfound, rfl⟩ := List.mem_map.mp hmem
    exact hlater found hfound

theorem lastNamed?_foldNames_eq_none_iff :
    lastNamed? name (foldNames entries) = none ↔ ∀ entry ∈ entries, Text.lower entry.1 ≠ name := by
  rw [lastNamed?_eq_none_iff, foldNames_eq, List.forall_mem_map]
  constructor
  · intro h entry hentry
    obtain ⟨a, hlast⟩ := exists_lastNamed?_of_mem hentry
    exact h (entry.1, a) (mem_mapping_iff.mpr hlast)
  · intro h entry hentry
    exact h entry (mem_of_lastNamed? (mem_mapping_iff.mp hentry))

/-- Where no two names are equal in small letters, every entry counts. -/
theorem lastNamed?_foldNames_of_nodup (hnodup : (entries.map fun e => Text.lower e.1).Nodup)
    {n : String} {a : α} (h : (n, a) ∈ entries) :
    lastNamed? (Text.lower n) (foldNames entries) = some a := by
  cases hlast : lastNamed? (Text.lower n) (foldNames entries) with
  | none => exact absurd rfl (lastNamed?_foldNames_eq_none_iff.mp hlast (n, a) h)
  | some b =>
    -- The entry that counts has the same name in small letters, so it is the given one.
    obtain ⟨n', hmem, hname⟩ := (lastNamed?_foldNames_eq_some_iff.mp hlast).exists_mem
    obtain rfl := (Prod.mk.inj (List.inj_on_of_nodup_map hnodup hmem h hname)).2
    rfl

theorem lastNamed?_foldNames_eq_some_iff_of_nodup
    (hnodup : (entries.map fun e => Text.lower e.1).Nodup) {a : α} :
    lastNamed? name (foldNames entries) = some a ↔ ∃ n, (n, a) ∈ entries ∧ Text.lower n = name := by
  constructor
  · intro h
    exact (lastNamed?_foldNames_eq_some_iff.mp h).exists_mem
  · rintro ⟨n, hmem, rfl⟩
    exact lastNamed?_foldNames_of_nodup hnodup hmem

/-- Entries without a common name are folded on their own. -/
theorem foldNames_append {earlier later : List (String × α)}
    (h : ∀ v ∈ earlier, ∀ w ∈ later, v.1 ≠ w.1) :
    foldNames (earlier ++ later) = foldNames earlier ++ foldNames later := by
  have hremove : (later.map (·.1)).removeAll (earlier.map (·.1)) = later.map (·.1) := by
    refine List.filter_eq_self.mpr fun name hname => ?_
    obtain ⟨w, hw, rfl⟩ := List.mem_map.mp hname
    have hnot : w.1 ∉ earlier.map (·.1) := by
      intro hmem
      obtain ⟨v, hv, heq⟩ := List.mem_map.mp hmem
      exact h v hv w hw heq
    simpa using hnot
  have hearlier : ∀ name ∈ (earlier.map (·.1)).eraseDups,
      lastNamed? name (earlier ++ later) = lastNamed? name earlier := by
    intro name hname
    obtain ⟨v, hv, rfl⟩ := List.mem_map.mp (List.mem_eraseDups.mp hname)
    rw [lastNamed?_append, lastNamed?_eq_none fun w hw => (h v hv w hw).symm, Option.none_or]
  have hlater : ∀ name ∈ (later.map (·.1)).eraseDups,
      lastNamed? name (earlier ++ later) = lastNamed? name later := by
    intro name hname
    obtain ⟨w, hw, rfl⟩ := List.mem_map.mp (List.mem_eraseDups.mp hname)
    rw [lastNamed?_append, lastNamed?_eq_none fun v hv => h v hv w hw, Option.or_none]
  unfold foldNames
  rw [List.map_append, List.eraseDups_append, hremove, List.filterMap_append]
  congr 1
  · exact List.filterMap_congr fun name hname => by rw [hearlier name hname]
  · exact List.filterMap_congr fun name hname => by rw [hlater name hname]

end Names

/-! ### Winners -/

theorem lower_name (f : Field) : Text.lower f.name = f.name := by
  have hascii : f.name.toList.all Text.isAscii := by cases f <;> decide
  rw [Text.lower_of_isAscii hascii]
  cases f <;> decide

/-- What the first source that has a setting says, if there is one. -/
inductive Sources.Winner (sources : Sources) (f : Field) : Option Value → Prop where
  /-- There is an argument of exactly its name. -/
  | argument {value : Value} (h : lastNamed? f.name sources.arguments = some value) :
    Winner sources f (some value)
  /-- There are only arguments of its name in another case. -/
  | otherCase {value : Value} (hexact : ∀ entry ∈ sources.arguments, entry.1 ≠ f.name)
    (h : LastFolded f.name sources.arguments value) : Winner sources f (some value)
  /-- There is no argument, but a variable of the environment. -/
  | environment {name s : String}
    (harguments : ∀ entry ∈ sources.arguments, Text.lower entry.1 ≠ f.name)
    (h : (name, s) ∈ sources.environment) (hname : Text.lower name = f.variableName) :
    Winner sources f (some (.text s))
  /-- There is neither, but a value in the variable file. -/
  | file {s : String} (harguments : ∀ entry ∈ sources.arguments, Text.lower entry.1 ≠ f.name)
    (henvironment : ∀ v ∈ sources.environment, Text.lower v.1 ≠ f.variableName)
    (h : LastFolded f.variableName sources.file (some s)) : Winner sources f (some (.text s))
  /-- There is nothing. -/
  | default (harguments : ∀ entry ∈ sources.arguments, Text.lower entry.1 ≠ f.name)
    (henvironment : ∀ v ∈ sources.environment, Text.lower v.1 ≠ f.variableName)
    (h : ∀ s, ¬ LastFolded f.variableName sources.file (some s)) : Winner sources f none

theorem argument?_eq_none_iff {arguments : List (String × Value)} (f : Field) :
    argument? arguments f.name = none ↔ ∀ entry ∈ arguments, Text.lower entry.1 ≠ f.name := by
  unfold argument?
  cases hexact : lastNamed? f.name arguments with
  | none => exact lastNamed?_foldNames_eq_none_iff
  | some value =>
    simp only [reduceCtorEq, false_iff]
    exact fun h => h _ (mem_of_lastNamed? hexact) (lower_name f)

theorem value?_of_environment {f : Field}
    (harguments : ∀ entry ∈ sources.arguments, Text.lower entry.1 ≠ f.name) {s : String}
    (h : lastNamed? f.variableName (foldNames sources.environment) = some s) :
    sources.value? f.name = some (.text s) := by
  have hnone := (argument?_eq_none_iff f).mpr harguments
  simp only [Field.variableName] at h
  simp [Sources.value?, hnone, h]

theorem value?_of_file {f : Field}
    (harguments : ∀ entry ∈ sources.arguments, Text.lower entry.1 ≠ f.name)
    (henvironment : ∀ v ∈ sources.environment, Text.lower v.1 ≠ f.variableName) :
    sources.value? f.name =
      ((lastNamed? f.variableName (foldNames sources.file)).join).map .text := by
  have hnone := (argument?_eq_none_iff f).mpr harguments
  have hmissing := lastNamed?_foldNames_eq_none_iff.mpr henvironment
  simp only [Field.variableName] at hmissing ⊢
  simp [Sources.value?, hnone, hmissing]

theorem Sources.Winner.eq_value? {f : Field} {w : Option Value} (h : sources.Winner f w)
    (hdistinct : (sources.environment.map fun v => Text.lower v.1).Nodup) :
    w = sources.value? f.name := by
  cases h with
  | argument h => simp [Sources.value?, argument?, h]
  | otherCase hexact h =>
    simp [Sources.value?, argument?, lastNamed?_eq_none hexact,
      lastNamed?_foldNames_eq_some_iff.mpr h]
  | environment harguments h hname =>
    have hvalue := lastNamed?_foldNames_of_nodup hdistinct h
    rw [hname] at hvalue
    rw [value?_of_environment harguments hvalue]
  | file harguments henvironment h =>
    rw [value?_of_file harguments henvironment, lastNamed?_foldNames_eq_some_iff.mpr h]
    rfl
  | default harguments henvironment h =>
    rw [value?_of_file harguments henvironment]
    cases hlast : lastNamed? f.variableName (foldNames sources.file) with
    | none => rfl
    | some value =>
      cases value with
      | none => rfl
      | some s => exact absurd (lastNamed?_foldNames_eq_some_iff.mp hlast) (h s)

theorem winner_of_argument? {f : Field} {value : Value}
    (h : argument? sources.arguments f.name = some value) : sources.Winner f (some value) := by
  unfold argument? at h
  split at h
  · rename_i hexact
    obtain rfl := Option.some.inj h
    exact .argument hexact
  · rename_i hexact
    exact .otherCase (lastNamed?_eq_none_iff.mp hexact) (lastNamed?_foldNames_eq_some_iff.mp h)

theorem winner_value? (sources : Sources) (f : Field) :
    sources.Winner f (sources.value? f.name) := by
  cases hargument : argument? sources.arguments f.name with
  | some value =>
    have hvalue : sources.value? f.name = some value := by simp [Sources.value?, hargument]
    rw [hvalue]
    exact winner_of_argument? hargument
  | none =>
    have harguments := (argument?_eq_none_iff f).mp hargument
    cases hvariable : lastNamed? f.variableName (foldNames sources.environment) with
    | some s =>
      rw [value?_of_environment harguments hvariable]
      obtain ⟨n, hmem, hname⟩ := (lastNamed?_foldNames_eq_some_iff.mp hvariable).exists_mem
      exact .environment harguments hmem hname
    | none =>
      have henvironment := lastNamed?_foldNames_eq_none_iff.mp hvariable
      rw [value?_of_file harguments henvironment]
      cases hfile : (lastNamed? f.variableName (foldNames sources.file)).join with
      | some s =>
        exact .file harguments henvironment
          (lastNamed?_foldNames_eq_some_iff.mp (Option.join_eq_some_iff.mp hfile))
      | none =>
        -- A last entry without a value gives none, whatever stands before it.
        refine .default harguments henvironment fun s h => ?_
        rw [lastNamed?_foldNames_eq_some_iff.mpr h] at hfile
        cases hfile

/-- **The value that counts is what the winner says**. -/
theorem winner_iff (sources : Sources)
    (hdistinct : (sources.environment.map fun v => Text.lower v.1).Nodup) (f : Field)
    (w : Option Value) : sources.Winner f w ↔ w = sources.value? f.name := by
  refine ⟨fun h => h.eq_value? hdistinct, ?_⟩
  rintro rfl
  exact winner_value? sources f

/-! ### Settings from all sources -/

section Read

variable {arguments : List (String × Value)} {environment : List (String × String)} {file : Bytes}
  {assigned : List (String × Option String)}

theorem read_of_file (hfile : DotEnv.read environment file = .ok assigned) :
    read arguments environment file =
      (load ⟨arguments, environment, assigned⟩).mapError .refused := by
  rw [read, hfile]
  cases hload : load ⟨arguments, environment, assigned⟩ <;> simp [hload, Except.mapError]

theorem read_eq_ok_iff (hfile : DotEnv.read environment file = .ok assigned) (s : Settings) :
    read arguments environment file = .ok s ↔ ∀ f : Field,
      f.settle ((⟨arguments, environment, assigned⟩ : Sources).value? f.name) = .ok (s.get f) := by
  rw [read_of_file hfile]
  rcases load_cases ⟨arguments, environment, assigned⟩ with
    ⟨settings, hload, hsettle⟩ | ⟨⟨f, fault, hfault⟩, hload⟩
  · rw [hload]
    constructor
    · intro h
      obtain rfl := Except.ok.inj h
      exact hsettle
    · intro h
      have hget (f : Field) : settings.get f = s.get f :=
        Except.ok.inj ((hsettle f).symm.trans (h f))
      rw [eq_of_get hget]
      rfl
  · rw [hload]
    constructor
    · intro h
      cases h
    · intro h
      cases hfault.symm.trans (h f)

theorem read_eq_error_iff (hfile : DotEnv.read environment file = .ok assigned) (e : LoadError) :
    read arguments environment file = .error e ↔
      (∃ (f : Field) (fault : Fault),
        f.settle ((⟨arguments, environment, assigned⟩ : Sources).value? f.name) = .error fault) ∧
      e = .refused ⟨"Settings",
        faults fun f => (⟨arguments, environment, assigned⟩ : Sources).value? f.name⟩ := by
  rw [read_of_file hfile]
  rcases load_cases ⟨arguments, environment, assigned⟩ with
    ⟨settings, hload, hsettle⟩ | ⟨hfaults, hload⟩
  · rw [hload]
    constructor
    · intro h
      cases h
    · rintro ⟨⟨f, fault, hfault⟩, -⟩
      cases hfault.symm.trans (hsettle f)
  · rw [hload]
    constructor
    · intro h
      exact ⟨hfaults, (Except.error.inj h).symm⟩
    · rintro ⟨-, rfl⟩
      rfl

/-- The outcome depends on the values that count alone. -/
theorem read_congr {arguments' : List (String × Value)} {environment' : List (String × String)}
    {file' : Bytes} {assigned' : List (String × Option String)}
    (hfile : DotEnv.read environment file = .ok assigned)
    (hfile' : DotEnv.read environment' file' = .ok assigned')
    (hsame : ∀ f : Field, (⟨arguments', environment', assigned'⟩ : Sources).value? f.name =
      (⟨arguments, environment, assigned⟩ : Sources).value? f.name) :
    read arguments' environment' file' = read arguments environment file := by
  cases hread : read arguments environment file with
  | ok s =>
    refine (read_eq_ok_iff hfile' s).mpr fun f => ?_
    rw [hsame]
    exact (read_eq_ok_iff hfile s).mp hread f
  | error e =>
    obtain ⟨⟨f, fault, hfault⟩, rfl⟩ := (read_eq_error_iff hfile e).mp hread
    -- The same settings are refused, since the faults are those of the values that count.
    refine (read_eq_error_iff hfile' _).mpr ⟨⟨f, fault, ?_⟩, ?_⟩
    · rw [hsame]
      exact hfault
    · rw [funext hsame]

variable (arguments) in
/-- **Settings are taken from the first source that has them**.  Each setting has one winner.  There
are settings if every winner's value is accepted for its setting, and then each setting is what its
winner says, or its default; otherwise exactly the settings whose winner is refused are reported, in
their order.  Sources with the same winners give the same outcome, whatever else they hold. -/
theorem settings_from_first_source (hfile : DotEnv.read environment file = .ok assigned)
    (hdistinct : (environment.map fun v => Text.lower v.1).Nodup) :
    ∃ found : Field → Option Value,
      (∀ f w, (⟨arguments, environment, assigned⟩ : Sources).Winner f w ↔ w = found f) ∧
      (∀ s, read arguments environment file = .ok s ↔
        ∀ f : Field, f.settle (found f) = .ok (s.get f)) ∧
      (∀ e, read arguments environment file = .error e ↔
        (∃ (f : Field) (fault : Fault), f.settle (found f) = .error fault) ∧
          e = .refused ⟨"Settings", faults found⟩) ∧
      ∀ arguments' environment' file' assigned', DotEnv.read environment' file' = .ok assigned' →
        (environment'.map fun v => Text.lower v.1).Nodup →
        (∀ f w, (⟨arguments', environment', assigned'⟩ : Sources).Winner f w ↔ w = found f) →
        read arguments' environment' file' = read arguments environment file := by
  refine ⟨fun f => (⟨arguments, environment, assigned⟩ : Sources).value? f.name,
    winner_iff _ hdistinct, read_eq_ok_iff hfile, read_eq_error_iff hfile, ?_⟩
  intro arguments' environment' file' assigned' hfile' hdistinct' hwinner
  exact read_congr hfile hfile' fun f => (hwinner f _).mp (winner_value? _ f)

end Read

/-- Arguments, one of which is unknown. -/
def smallArguments : List (String × Value) :=
  [("mysql_port", .int 5), ("mysql_hosts", .null)]

/-- An environment whose value for the port is no number, with an unknown variable and one that is
not meant for the service. -/
def smallEnvironment : List (String × String) :=
  [("cardmonitor_MYSQL_PORT", "none"), ("CARDMONITOR_Mysql_Host", "db"),
   ("CARDMONITOR_MYSQL_HOSTS", "x"), ("MYSQL_USER", "x")]

/-- A variable file whose value for the host loses. -/
def smallFile : Bytes :=
  "CardMonitor_Log_Level=debug\nCARDMONITOR_MYSQL_HOST=x".toList.map fun c => c.toNat.toUInt8

/-- The settings from these sources. -/
def smallSettings : Settings :=
  { mysqlPort := 5, mysqlHost := "db", logLevel := "debug" }

theorem read_small : read smallArguments smallEnvironment smallFile = .ok smallSettings :=
  eq_ok_of_toOption_eq_some (by decide +kernel)

theorem settings_from_first_source_small :
    ∃ found : Field → Option Value,
      found .mysqlPort = some (.int 5) ∧ found .mysqlHost = some (.text "db") ∧
      found .logLevel = some (.text "debug") ∧
      ∀ f : Field, f.settle (found f) = .ok (smallSettings.get f) := by
  have hfile : DotEnv.read smallEnvironment smallFile =
      .ok [("CardMonitor_Log_Level", some "debug"), ("CARDMONITOR_MYSQL_HOST", some "x")] := by
    decide +kernel
  obtain ⟨found, hwinner, hok, -⟩ :=
    settings_from_first_source smallArguments hfile (by decide +kernel)
  refine ⟨found, ?_, ?_, ?_, (hok smallSettings).mp read_small⟩
  · exact ((hwinner .mysqlPort _).mp (.argument rfl)).symm
  · have hmem : ("CARDMONITOR_Mysql_Host", "db") ∈ smallEnvironment := by decide
    refine ((hwinner .mysqlHost _).mp ?_).symm
    exact .environment (by decide +kernel) hmem (by decide +kernel)
  · refine ((hwinner .logLevel _).mp (.file (by decide +kernel) (by decide +kernel) ?_)).symm
    exact ⟨[], "CardMonitor_Log_Level", [("CARDMONITOR_MYSQL_HOST", some "x")],
      by decide, by decide +kernel, by decide +kernel⟩

/-- An argument is not passed over for the case of its name: it sets a setting that no argument
names exactly. -/
theorem not_forall_other_case_passed_over :
    ¬ ∀ (arguments : List (String × Value)) (s : Settings) (f : Field),
      (∀ entry ∈ arguments, entry.1 ≠ f.name) → read arguments [] [] = .ok s →
        s.get f = ({} : Settings).get f := by
  intro h
  have hread : read [("MYSQL_HOST", .text "upper")] [] [] = .ok { mysqlHost := "upper" } :=
    eq_ok_of_toOption_eq_some (by decide +kernel)
  have hdefault := h _ _ .mysqlHost (by decide) hread
  exact absurd (Value.text.inj hdefault) (by decide)

end CardHealth.Config.Settings
