import CardHealth.Proofs.Config.DatabaseUrl
import CardHealth.Proofs.Config.Settings
import CardHealth.Proofs.Monitor.Kept
import CardHealth.Proofs.Monitor.Password
import CardHealth.Proofs.Value.Integer

/-!
# Two ways to say where the database is

The database is named by single settings or by the text of an address.  With the text that the
single settings make, a service has an engine for the same address as with the settings themselves
(`engine_of_written_address`).

The text is read back by `DatabaseUrl.parse_render`; what that asks of an address is found here in
settings that were loaded.  A port needs no bound: it was itself read from a text, and so it has no
more digits than can be read (`natAbs_mysqlPort_lt`).  Only the host has to be plain, since no mark
in it is escaped.
-/

namespace CardHealth

open Config

namespace Config.Settings

variable {sources : Sources} {environment : List (String × String)} {file : Bytes} {s : Settings}

/-- Without arguments a setting is a text or has its default. -/
theorem exists_text_of_value? (h : sources.arguments = []) {f : Field} {value : Value}
    (hvalue : sources.value? f.name = some value) : ∃ text, value = .text text := by
  have hwinner := winner_value? sources f
  rw [hvalue] at hwinner
  cases hwinner with
  | argument hlast =>
    rw [h] at hlast
    cases hlast
  | otherCase hexact hlast =>
    obtain ⟨n, hmem, -⟩ := hlast.exists_mem
    rw [h] at hmem
    cases hmem
  | environment => exact ⟨_, rfl⟩
  | file => exact ⟨_, rfl⟩

/-- The port was read from a text, and so it has a text that can be read. -/
theorem natAbs_mysqlPort_lt (h : read [] environment file = .ok s) :
    s.mysqlPort.natAbs < 10 ^ Numeral.maxDigits := by
  cases hfile : DotEnv.read environment file with
  | error e =>
    rw [read, hfile] at h
    cases h
  | ok assigned =>
    have hport := (read_eq_ok_iff hfile s).mp h .mysqlPort
    cases hvalue : (⟨[], environment, assigned⟩ : Sources).value? Field.mysqlPort.name with
    | none =>
      rw [hvalue] at hport
      obtain hdefault : (3306 : Int) = s.mysqlPort := Value.int.inj (Except.ok.inj hport)
      have hsmall : 3306 < 10 ^ 4 := by norm_num
      rw [← hdefault]
      exact hsmall.trans_le (Nat.pow_le_pow_right (by decide) (by decide))
    | some value =>
      obtain ⟨text, rfl⟩ := exists_text_of_value? rfl hvalue
      rw [hvalue] at hport
      obtain ⟨n, hread, hn⟩ := map_eq_ok_iff.mp hport
      obtain rfl := Value.int.inj hn
      exact (Value.intOfText_eq_ok_iff.mp hread).2.natAbs_lt

/-- The address made of the single settings can be told from its text. -/
theorem isPlain_mysqlUrl (hhost : DatabaseUrl.IsPlainHost s.mysqlHost)
    (hport : s.mysqlPort.natAbs < 10 ^ Numeral.maxDigits) : s.mysqlUrl.IsPlain where
  driver_ne := by
    show "mysql+pymysql" ≠ ""
    decide
  driver := by
    have hall : "mysql+pymysql".toList.all DatabaseUrl.isDriverChar = true := by
      decide +kernel
    exact List.all_eq_true.mp hall
  password := by rintro ⟨⟩
  host := by
    rintro host hmem
    obtain rfl := Option.mem_some_iff.mp hmem
    exact hhost
  port := by
    rintro port hmem
    obtain rfl := Option.mem_some_iff.mp hmem
    exact hport
  query := rfl

end Config.Settings

namespace Engine

theorem ofUrl_mysqlUrl (s : Settings) (connectTimeout : Int) :
    ofUrl s.mysqlUrl connectTimeout = .ok ⟨s.mysqlUrl, .mysql "mysql", connectTimeout⟩ := by
  have hbackend : backendOf "mysql+pymysql" = .ok (.mysql "mysql") :=
    eq_ok_of_toOption_eq_some (by decide +kernel)
  have hplugin : plugin? s.mysqlUrl = none := rfl
  have hdriver : s.mysqlUrl.driver = "mysql+pymysql" := rfl
  unfold ofUrl
  rw [hplugin]
  dsimp only
  rw [hdriver, hbackend]
  rfl

end Engine

namespace Monitor

variable {m m' : Monitor} {s s' : Settings}

/-- The settings of a service that keeps nothing are read from its host. -/
theorem read_of_clear (hs : (m.clear true true).settings.1 = .ok s) :
    Settings.read [] m.host.environment m.host.variableFile = .ok s := by
  rw [settings_fst_of_not_kept rfl] at hs
  exact mapError_eq_ok_iff.mp hs

/-- Its engine is the one for these settings. -/
theorem engine_of_clear (hs : (m.clear true true).settings.1 = .ok s) {url : DatabaseUrl}
    (hurl : s.location.resolve = .ok url) :
    (m.clear true true).engine.1 =
      (Engine.ofUrl url s.mysqlConnectTimeout).mapError .engine := by
  have hof : Engine.ofSettings s = Engine.ofUrl url s.mysqlConnectTimeout := by
    rw [Engine.ofSettings, hurl]
  rw [engine_fst_of_not_kept rfl, hs, ← hof]
  rfl

/-- **Single settings and a written address lead to the same database**.

Let a service have settings without an address, whatever the user name, the password, the port and
the name of the database are, and with a plain host.  Let another one have the full text of the
address that is made of them, and any other settings.  Then both have an engine, and the two engines
have the same address in all its parts; so an empty password stays none. -/
theorem engine_of_written_address (hs : (m.clear true true).settings.1 = .ok s)
    (hunset : ∀ text ∈ s.databaseUrl, text = "") (hhost : DatabaseUrl.IsPlainHost s.mysqlHost)
    (hs' : (m'.clear true true).settings.1 = .ok s')
    (haddress : s'.databaseUrl = some s.mysqlUrl.render) :
    (m.clear true true).engine.1 =
        .ok ⟨s.mysqlUrl, .mysql "mysql", s.mysqlConnectTimeout⟩ ∧
      (m'.clear true true).engine.1 =
        .ok ⟨s.mysqlUrl, .mysql "mysql", s'.mysqlConnectTimeout⟩ := by
  have hplain : s.mysqlUrl.IsPlain :=
    Settings.isPlain_mysqlUrl hhost (Settings.natAbs_mysqlPort_lt (read_of_clear hs))
  have hurl : s.location.resolve = .ok s.mysqlUrl := by
    rw [Settings.location_of_unset hunset]
    rfl
  have hurl' : s'.location.resolve = .ok s.mysqlUrl :=
    Settings.resolve_of_parse haddress (DatabaseUrl.parse_render hplain)
  constructor
  · rw [engine_of_clear hs hurl, Engine.ofUrl_mysqlUrl]
    rfl
  · rw [engine_of_clear hs' hurl', Engine.ofUrl_mysqlUrl]
    rfl

/-- Settings whose texts have all the characters that divide addresses. -/
def dividedSettings : Settings :=
  { mysqlHost := "db-1.example", mysqlUser := "a:b@c/d?e", mysqlPassword := "%2F + é[]#&=@:",
    mysqlDbname := "m_f.st", mysqlPort := 70000 }

/-- A new service that is given these settings. -/
def givenSettings : Monitor :=
  start
    { environment :=
        [("CARDMONITOR_MYSQL_HOST", "db-1.example"), ("CARDMONITOR_MYSQL_USER", "a:b@c/d?e"),
         ("CARDMONITOR_MYSQL_PASSWORD", "%2F + é[]#&=@:"), ("CARDMONITOR_MYSQL_DBNAME", "m_f.st"),
         ("CARDMONITOR_MYSQL_PORT", "70_000")] }

/-- A new service that is given the text of their address. -/
def givenAddress : Monitor :=
  start
    { environment :=
        [("CARDMONITOR_DATABASE_URL",
          "mysql+pymysql://a%3Ab%40c%2Fd%3Fe:%252F + %C3%A9%5B%5D%23%26%3D%40%3A" ++
            "@db-1.example:70000/m_f.st")] }

theorem engine_of_written_address_small :
    (givenSettings.clear true true).engine.1 = .ok ⟨dividedSettings.mysqlUrl, .mysql "mysql", 5⟩ ∧
      (givenAddress.clear true true).engine.1 =
        .ok ⟨dividedSettings.mysqlUrl, .mysql "mysql", 5⟩ := by
  have hs : (givenSettings.clear true true).settings.1 = .ok dividedSettings :=
    eq_ok_of_toOption_eq_some (by decide +kernel)
  have hs' : (givenAddress.clear true true).settings.1 =
      .ok { databaseUrl := some dividedSettings.mysqlUrl.render } :=
    eq_ok_of_toOption_eq_some (by decide +kernel)
  exact engine_of_written_address hs (by simp [dividedSettings]) (by decide) hs' rfl

end Monitor

end CardHealth
