import CardHealth.Proofs.Monitor.Memory
import CardHealth.Proofs.Monitor.Origin

/-!
# Hidden passwords

Neither the log nor a client can tell two services apart whose settings differ in the password of
the database alone: `password_stays_hidden`.  An address is taken apart before its password is
covered, so that no character of the password matters.  What the driver says is taken as it is, and
is supposed to be the same in both services.
-/

namespace CardHealth

open Http Config

/-! ### Settings with different passwords -/

namespace Config.Settings

/-- Settings with different passwords and nothing else that differs.  The password is a single
setting, or it stands in the text of an address, which may differ in any way then. -/
inductive DifferInPassword : Settings → Settings → Prop where
  | single {s : Settings} {p q : String} (unset : ∀ text ∈ s.databaseUrl, text = "")
      (hp : p ≠ "") (hq : q ≠ "") :
      DifferInPassword { s with mysqlPassword := p } { s with mysqlPassword := q }
  | address {s : Settings} {t t' : String} {u : DatabaseUrl} {p q : String}
      (first : DatabaseUrl.parse t = .ok { u with password := some p })
      (second : DatabaseUrl.parse t' = .ok { u with password := some q }) :
      DifferInPassword { s with databaseUrl := some t } { s with databaseUrl := some t' }

variable {s s' : Settings}

theorem DifferInPassword.appName_eq (h : s.DifferInPassword s') : s'.appName = s.appName := by
  cases h <;> rfl

/-- Without a text the address is made of the single settings. -/
theorem location_of_unset (unset : ∀ text ∈ s.databaseUrl, text = "") :
    s.location = .url s.mysqlUrl := by
  unfold location
  cases haddress : s.databaseUrl with
  | none => rfl
  | some text =>
    obtain rfl := unset text haddress
    rfl

/-- The password is among them. -/
theorem resolve_of_unset {p : String} (unset : ∀ text ∈ s.databaseUrl, text = "") (hp : p ≠ "") :
    { s with mysqlPassword := p }.location.resolve =
      .ok { s.mysqlUrl with password := some p } := by
  rw [location_of_unset (s := { s with mysqlPassword := p }) unset]
  simp [Location.resolve, mysqlUrl, hp]

/-- A text that is an address counts, for it is not empty. -/
theorem resolve_of_parse {t : String} {u : DatabaseUrl} (ht : s.databaseUrl = some t)
    (h : DatabaseUrl.parse t = .ok u) : s.location.resolve = .ok u := by
  have hne : t ≠ "" := by
    rintro rfl
    cases h
  have hlocation : s.location = .text t := by
    unfold location
    rw [ht]
    dsimp only
    rw [if_neg (by simpa using hne)]
  rw [hlocation]
  exact h

/-- The addresses differ in the password alone. -/
theorem DifferInPassword.exists_resolve (h : s.DifferInPassword s') :
    ∃ (u : DatabaseUrl) (p q : String),
      s.location.resolve = .ok { u with password := some p } ∧
        s'.location.resolve = .ok { u with password := some q } := by
  cases h with
  | single unset hp hq => exact ⟨_, _, _, resolve_of_unset unset hp, resolve_of_unset unset hq⟩
  | address first second =>
    exact ⟨_, _, _, resolve_of_parse rfl first, resolve_of_parse rfl second⟩

end Config.Settings

/-! ### Engines -/

namespace Engine

theorem url_of_ofUrl {url : DatabaseUrl} {connectTimeout : Int} {e : Engine}
    (h : ofUrl url connectTimeout = .ok e) : e.url = withoutPlugins url := by
  unfold ofUrl at h
  split at h
  · cases h
  · split at h
    · cases h
    · split_ifs at h
      split at h
      · cases h
      · rw [← Except.ok.inj h]

theorem url_of_ofSettings {s : Settings} {url : DatabaseUrl} {e : Engine}
    (hurl : s.location.resolve = .ok url) (h : ofSettings s = .ok e) :
    e.url = withoutPlugins url := by
  unfold ofSettings at h
  rw [hurl] at h
  exact url_of_ofUrl h

/-- **The covered addresses are the same**. -/
theorem renderHidden_eq {s s' : Settings} {e e' : Engine} (h : s.DifferInPassword s')
    (he : ofSettings s = .ok e) (he' : ofSettings s' = .ok e') :
    e'.url.renderHidden = e.url.renderHidden := by
  obtain ⟨u, p, q, hp, hq⟩ := h.exists_resolve
  rw [url_of_ofSettings hp he, url_of_ofSettings hq he']
  rfl

end Engine

/-! ### Failed connections -/

namespace Monitor

variable {m m' : Monitor} {r : Request} {s s' : Settings} {e e' : Engine}
variable {error : Engine.ConnectError}

/-- What is logged about a connection that cannot be opened. -/
def logged (e : Engine) : Engine.ConnectError → List Log.Entry
  | .unavailable reason => [unavailableEntry e reason]
  | _ => []

theorem logged_congr (h : e'.url.renderHidden = e.url.renderHidden)
    (error : Engine.ConnectError) : logged e' error = logged e error := by
  cases error with
  | unavailable reason => simp only [logged, unavailableEntry, h]
  | unencodablePassword c position length => rfl
  | timeoutOutOfRange => rfl

/-- The message of the failure to open a connection. -/
def failureMessage : Engine.ConnectError → String
  | .unavailable _ => Failure.unavailable.message
  | error => error.message

theorem openConnection_of_connect_error (h : m.connect.1 = .error (.connection e error)) :
    (∃ f, m.openConnection.1 = .error f ∧ f.message = failureMessage error) ∧
      m.openConnection.2.log = m.log ++ logged e error := by
  cases error with
  | unavailable reason =>
    have hout : m.outage? = some (e, reason) := by rw [outage?, h]
    rw [openConnection_of_outage? hout, report, m.connect_log]
    exact ⟨⟨_, rfl, rfl⟩, rfl⟩
  | unencodablePassword c position length =>
    have hout : m.outage? = none := by rw [outage?, h]
    rw [openConnection_of_outage?_eq_none hout, m.connect_log, h]
    exact ⟨⟨_, rfl, rfl⟩, (List.append_nil _).symm⟩
  | timeoutOutOfRange =>
    have hout : m.outage? = none := by rw [outage?, h]
    rw [openConnection_of_outage?_eq_none hout, m.connect_log, h]
    exact ⟨⟨_, rfl, rfl⟩, (List.append_nil _).symm⟩

/-- The response if a connection cannot be opened. -/
def failedResponse (r : Request) : Engine.ConnectError → Response
  | .unavailable _ => Cors.decorate r unavailableResponse
  | _ => Response.internalError

/-- The message of the failure that is raised after it. -/
def raisedMessage? : Engine.ConnectError → Option String
  | .unavailable _ => none
  | error => some error.message

/-- What comes of a request if a connection cannot be opened. -/
theorem respond_of_connect_error (hr : r.asksForRecords = true)
    (h : m.connect.1 = .error (.connection e error)) :
    (m.respond r).2.log = m.log ++ logged e error ∧
      (m.respond r).1.response = failedResponse r error ∧
      (m.respond r).1.raised.map Failure.message = raisedMessage? error := by
  have hother (hout : m.outage? = none) :
      m.respond r = (.ofFailure (.connection e error), m.connect.2) :=
    respond_of_failure hr hout h
  cases error with
  | unavailable reason =>
    have hout : m.outage? = some (e, reason) := by rw [outage?, h]
    rw [respond_of_outage? hr hout, report, m.connect_log]
    exact ⟨rfl, rfl, rfl⟩
  | unencodablePassword c position length =>
    rw [hother (by rw [outage?, h]), m.connect_log]
    exact ⟨(List.append_nil _).symm, rfl, rfl⟩
  | timeoutOutOfRange =>
    rw [hother (by rw [outage?, h]), m.connect_log]
    exact ⟨(List.append_nil _).symm, rfl, rfl⟩

/-- No other request opens a connection. -/
theorem respond_of_not_asksForRecords (hr : ¬r.asksForRecords = true)
    (happ : m'.appName = m.appName) :
    (m.respond r).2 = m ∧ (m'.respond r).2 = m' ∧ (m'.respond r).1 = (m.respond r).1 := by
  unfold respond
  split
  · exact ⟨rfl, rfl, rfl⟩
  · cases hfind : Route.find r.method (Text.percentDecode r.path.toList) with
    | handled endpoint =>
      cases endpoint with
      | root =>
        refine ⟨rfl, rfl, ?_⟩
        simp only [serve, happ]
      | health => exact ⟨rfl, rfl, rfl⟩
      | data => exact absurd (asksForRecords_of_find hfind) hr
    | _ => exact ⟨rfl, rfl, rfl⟩

/-! ### Two services -/

/-- A service under settings: it has the engine for them, and the application was loaded under
them. -/
structure RunsUnder (m : Monitor) (s : Settings) : Prop where
  engine_eq : m.engine.1 = (Engine.ofSettings s).mapError .engine
  appName_eq : m.appName = s.appName

/-- The settings of a service that keeps no engine are those it runs under. -/
theorem runsUnder_of_settings (hengine : m.keptEngine = none) (hs : m.settings.1 = .ok s)
    (happ : m.appName = s.appName) : m.RunsUnder s := by
  refine ⟨?_, happ⟩
  rw [engine_fst, hengine]
  dsimp only
  rw [hs]
  rfl

theorem RunsUnder.ofSettings_eq (h : m.RunsUnder s)
    (hconnect : m.connect.1 = .error (.connection e error)) : Engine.ofSettings s = .ok e := by
  rw [connect_fst, h.engine_eq] at hconnect
  cases hof : Engine.ofSettings s with
  | error f =>
    rw [hof] at hconnect
    cases hconnect
  | ok engine =>
    rw [hof] at hconnect
    have hfailed : (m.host.connect engine).mapError (Failure.connection engine) =
        .error (.connection e error) := hconnect
    cases hopen : m.host.connect engine with
    | ok connection =>
      rw [hopen] at hfailed
      cases hfailed
    | error error' =>
      rw [hopen] at hfailed
      cases hfailed
      rfl

/-- No server answers, for the reason that the driver gives on the host. -/
theorem RunsUnder.connect_of_mysql (h : m.RunsUnder s) (he : Engine.ofSettings s = .ok e)
    {dialect : String} (hbackend : e.backend = .mysql dialect) :
    m.connect.1 = .error (.connection e (e.connectServer (m.host.serverReason e))) := by
  have hhost : m.host.connect e = .error (e.connectServer (m.host.serverReason e)) := by
    unfold Host.connect
    rw [hbackend]
  rw [connect_fst, h.engine_eq, he]
  show (m.host.connect e).mapError (Failure.connection e) = _
  rw [hhost]
  rfl

/-- **Passwords stay hidden**.

Let the settings of two services differ in the password of the database alone, whatever the
passwords and the other settings are.  The message about a database that does not answer is the same
in both for every reason.  If connections cannot be opened for the same reason, then opening one
fails with the same message and adds the same to both logs.  So does every request: it has the same
response in both, and after it a failure with the same message is raised in both or in none. -/
theorem password_stays_hidden (s s' : Settings) (h : s.DifferInPassword s') :
    (∀ e e', Engine.ofSettings s = .ok e → Engine.ofSettings s' = .ok e' →
      ∀ reason, unavailableEntry e' reason = unavailableEntry e reason) ∧
    ∀ m m' : Monitor, m.RunsUnder s → m'.RunsUnder s' →
      ∀ e e' error, m.connect.1 = .error (.connection e error) →
        m'.connect.1 = .error (.connection e' error) →
        (∃ f f', m.openConnection.1 = .error f ∧ m'.openConnection.1 = .error f' ∧
          f'.message = f.message) ∧
        m.openConnection.2.log = m.log ++ logged e error ∧
        m'.openConnection.2.log = m'.log ++ logged e error ∧
        ∀ r : Request, ∃ entries, (m.respond r).2.log = m.log ++ entries ∧
          (m'.respond r).2.log = m'.log ++ entries ∧
          (m'.respond r).1.response = (m.respond r).1.response ∧
          (m'.respond r).1.raised.map Failure.message =
            (m.respond r).1.raised.map Failure.message := by
  constructor
  · intro e e' he he' reason
    simp only [unavailableEntry, Engine.renderHidden_eq h he he']
  · intro m m' hm hm' e e' error hconnect hconnect'
    have hlogged : logged e' error = logged e error :=
      logged_congr (Engine.renderHidden_eq h (hm.ofSettings_eq hconnect)
        (hm'.ofSettings_eq hconnect')) error
    obtain ⟨⟨f, hf, hmessage⟩, hlog⟩ := openConnection_of_connect_error hconnect
    obtain ⟨⟨f', hf', hmessage'⟩, hlog'⟩ := openConnection_of_connect_error hconnect'
    refine ⟨⟨f, f', hf, hf', hmessage'.trans hmessage.symm⟩, hlog, ?_, ?_⟩
    · rw [← hlogged]
      exact hlog'
    · intro r
      by_cases hr : r.asksForRecords = true
      · obtain ⟨hlog, hresponse, hraised⟩ := respond_of_connect_error hr hconnect
        obtain ⟨hlog', hresponse', hraised'⟩ := respond_of_connect_error hr hconnect'
        rw [hlogged] at hlog'
        exact ⟨logged e error, hlog, hlog', hresponse'.trans hresponse.symm,
          hraised'.trans hraised.symm⟩
      · -- Without a connection, the name of the application is all that is read of the settings.
        have happ : m'.appName = m.appName := by
          rw [hm.appName_eq, hm'.appName_eq, h.appName_eq]
        obtain ⟨hnext, hnext', hreply⟩ := respond_of_not_asksForRecords hr happ
        refine ⟨[], ?_, ?_, ?_, ?_⟩
        · rw [hnext, List.append_nil]
        · rw [hnext', List.append_nil]
        · rw [hreply]
        · rw [hreply]

/-- A service at its start on a host, under settings. -/
def startUnder (host : Host) (s : Settings) : Monitor :=
  { start host with keptSettings := some s, appName := s.appName }

/-- A host whose server lets nobody in. -/
def closedHost : Host :=
  { serverReason := fun _ => "(1045, \"Access denied for user 'u'@'h' (using password: YES)\")" }

/-- Settings whose texts have the characters that divide addresses. -/
def divided (password : String) : Settings :=
  { mysqlHost := "a@b/c", mysqlUser := "u:v", mysqlDbname := "d%?", mysqlPassword := password }

/-- An address with a password. -/
def guarded (password : String) : DatabaseUrl :=
  ⟨"mysql+pymysql", some "u", some password, some "h", none, some "d", []⟩

/-- Settings with the text of an address. -/
def atAddress (text : String) : Settings :=
  { databaseUrl := some text }

theorem password_stays_hidden_small :
    ((startUnder {} (divided "x@y:/%")).openConnection.2.log =
        (startUnder {} (divided "***")).openConnection.2.log ∧
      ((startUnder {} (divided "x@y:/%")).respond (asking "")).1.response =
        ((startUnder {} (divided "***")).respond (asking "")).1.response) ∧
    (startUnder closedHost (atAddress "mysql+pymysql://u:%2F:x@h/d")).openConnection.2.log =
      (startUnder closedHost (atAddress "mysql+pymysql://u:***@h/d")).openConnection.2.log := by
  -- Both services find the same reason, and log nothing before it.
  have hsame {host : Host} {s s' : Settings} {e e' : Engine} (h : s.DifferInPassword s')
      (he : Engine.ofSettings s = .ok e) (he' : Engine.ofSettings s' = .ok e')
      (hbackend : e.backend = .mysql "mysql") (hbackend' : e'.backend = .mysql "mysql")
      (hserver : e'.connectServer (host.serverReason e') =
        e.connectServer (host.serverReason e)) :
      (startUnder host s').openConnection.2.log = (startUnder host s).openConnection.2.log ∧
        ((startUnder host s').respond (asking "")).1.response =
          ((startUnder host s).respond (asking "")).1.response := by
    have hruns : (startUnder host s).RunsUnder s := runsUnder_of_settings rfl rfl rfl
    have hruns' : (startUnder host s').RunsUnder s' := runsUnder_of_settings rfl rfl rfl
    have hconnect := hruns.connect_of_mysql he hbackend
    have hconnect' : (startUnder host s').connect.1 =
        .error (.connection e' (e.connectServer (host.serverReason e))) := by
      rw [← hserver]
      exact hruns'.connect_of_mysql he' hbackend'
    obtain ⟨-, hlog, hlog', hrespond⟩ :=
      (password_stays_hidden s s' h).2 _ _ hruns hruns' _ _ _ hconnect hconnect'
    obtain ⟨_, -, -, hresponse, -⟩ := hrespond (asking "")
    exact ⟨hlog'.trans hlog.symm, hresponse⟩
  constructor
  · have hdiffer : (divided "***").DifferInPassword (divided "x@y:/%") :=
      .single (s := divided "") (by simp [divided]) (by decide) (by decide)
    exact hsame hdiffer rfl rfl rfl rfl rfl
  · have hfirst : DatabaseUrl.parse "mysql+pymysql://u:***@h/d" = .ok (guarded "***") :=
      eq_ok_of_toOption_eq_some (by decide +kernel)
    have hsecond : DatabaseUrl.parse "mysql+pymysql://u:%2F:x@h/d" = .ok (guarded "/:x") :=
      eq_ok_of_toOption_eq_some (by decide +kernel)
    have hdiffer : (atAddress "mysql+pymysql://u:***@h/d").DifferInPassword
        (atAddress "mysql+pymysql://u:%2F:x@h/d") :=
      .address (s := {}) (u := guarded "") hfirst hsecond
    have hengine {text : String} {url : DatabaseUrl} (h : DatabaseUrl.parse text = .ok url) :
        Engine.ofSettings (atAddress text) = Engine.ofUrl url 5 := by
      unfold Engine.ofSettings
      rw [Settings.resolve_of_parse rfl h]
      rfl
    have hurl : Engine.ofUrl (guarded "***") 5 = .ok ⟨guarded "***", .mysql "mysql", 5⟩ := rfl
    have hurl' : Engine.ofUrl (guarded "/:x") 5 = .ok ⟨guarded "/:x", .mysql "mysql", 5⟩ := rfl
    exact (hsame hdiffer ((hengine hfirst).trans hurl) ((hengine hsecond).trans hurl') rfl rfl
      rfl).1

end Monitor

end CardHealth
