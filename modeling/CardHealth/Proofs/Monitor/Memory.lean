import CardHealth.Proofs.Host
import CardHealth.Proofs.Monitor.Data

/-!
# No memory and no open connections

Whatever happened before, a request is answered as in a session in which nothing has happened
(`service_keeps_no_memory`).  The answer depends on the entries of the host, the engine and the name
of the application alone (`respond_fst_congr`), and a use of the service leaves them as they are:
it may have the engine, which is the same engine then, it closes what it opens, and it logs
(`IsUsed`).  Changes of the store leave the settings as they are, so that the engine is the same
after them as well.
-/

namespace CardHealth

open Http Config

namespace Monitor

variable {m next other : Monitor} {r : Request}

/-! ### What an answer depends on -/

theorem settings_fst (m : Monitor) :
    m.settings.1 =
      match m.keptSettings with
      | some settings => .ok settings
      | none =>
        (Settings.read [] m.host.environment m.host.variableFile).mapError .settings := by
  unfold settings
  cases m.keptSettings with
  | some settings => rfl
  | none => cases Settings.read [] m.host.environment m.host.variableFile <;> rfl

theorem engine_fst (m : Monitor) :
    m.engine.1 =
      match m.keptEngine with
      | some engine => .ok engine
      | none => m.settings.1 >>= fun settings => (Engine.ofSettings settings).mapError .engine := by
  unfold engine
  cases m.keptEngine with
  | some engine => rfl
  | none =>
    obtain ⟨outcome, next⟩ := m.settings
    cases outcome with
    | error f => rfl
    | ok settings =>
      show _ = (Engine.ofSettings settings).mapError Failure.engine
      dsimp only
      cases Engine.ofSettings settings <;> rfl

/-- The engine depends on what is kept, and on the environment and the variable file. -/
theorem engine_fst_congr (hsettings : other.keptSettings = m.keptSettings)
    (hengine : other.keptEngine = m.keptEngine)
    (henvironment : other.host.environment = m.host.environment)
    (hvariables : other.host.variableFile = m.host.variableFile) :
    other.engine.1 = m.engine.1 := by
  rw [engine_fst, engine_fst, settings_fst, settings_fst, hsettings, hengine, henvironment,
    hvariables]

/-- An engine that is had again is the same engine, or the same failure. -/
theorem engine_engine_fst (m : Monitor) : m.engine.2.engine.1 = m.engine.1 := by
  -- What is kept the first time is what is found the second time.
  cases hengine : m.keptEngine with
  | some kept => simp [engine, hengine]
  | none =>
    cases hsettings : m.keptSettings with
    | some settings =>
      cases hof : Engine.ofSettings settings <;>
        simp [engine, Monitor.settings, hengine, hsettings, hof]
    | none =>
      cases hread : Settings.read [] m.host.environment m.host.variableFile with
      | error e => simp [engine, Monitor.settings, hengine, hsettings, hread]
      | ok settings =>
        cases hof : Engine.ofSettings settings <;>
          simp [engine, Monitor.settings, hengine, hsettings, hread, hof]

theorem connect_fst (m : Monitor) :
    m.connect.1 =
      m.engine.1 >>= fun engine => (m.host.connect engine).mapError (.connection engine) := by
  rw [← m.engine_host]
  unfold connect
  obtain ⟨outcome, next⟩ := m.engine
  cases outcome with
  | error f => rfl
  | ok engine =>
    show _ = (next.host.connect engine).mapError (Failure.connection engine)
    dsimp only
    cases next.host.connect engine <;> rfl

theorem openConnection_fst (m : Monitor) :
    m.openConnection.1 =
      match m.connect.1 with
      | .error (.connection _ (.unavailable _)) => .error .unavailable
      | outcome => outcome := by
  unfold openConnection
  -- Both sides tell the same failure from all other outcomes.
  obtain ⟨outcome, next⟩ := m.connect
  split
  · rename_i hconnect
    obtain rfl := (Prod.mk.inj hconnect).1
    rfl
  · rename_i hother
    dsimp only
    split
    · exact absurd rfl (hother _ _ _)
    · rfl

theorem openConnection_fst_congr (hentries : other.host.entries = m.host.entries)
    (hengine : other.engine.1 = m.engine.1) :
    other.openConnection.1 = m.openConnection.1 := by
  rw [openConnection_fst, openConnection_fst, connect_fst, connect_fst, hengine]
  cases m.engine.1 with
  | error f => rfl
  | ok engine =>
    -- The reason why a server does not answer is logged, but it is no part of the failure.
    rcases Host.connect_congr hentries engine with hsame | ⟨_, _, hreason, hreason'⟩
    · simp only [bind, Except.bind, hsame]
    · simp only [bind, Except.bind, hreason, hreason', Except.mapError]

theorem serveRecords_fst_congr (m other : Monitor) (r : Request) (connection : Connection) :
    (other.serveRecords r connection).1 = (m.serveRecords r connection).1 := by
  unfold serveRecords
  cases Since.read r with
  | error e => rfl
  | ok since =>
    have hrecords : (other.records connection since).1 = (m.records connection since).1 := by
      rw [records_fst, records_fst]
    dsimp only
    generalize m.records connection since = result at hrecords ⊢
    generalize other.records connection since = otherResult at hrecords ⊢
    obtain ⟨outcome, next⟩ := result
    obtain ⟨otherOutcome, otherNext⟩ := otherResult
    obtain rfl : otherOutcome = outcome := hrecords
    cases otherOutcome <;> rfl

theorem serveData_fst_congr (hopen : other.openConnection.1 = m.openConnection.1) (r : Request) :
    (other.serveData r).1 = (m.serveData r).1 := by
  unfold serveData
  generalize m.openConnection = result at hopen ⊢
  generalize other.openConnection = otherResult at hopen ⊢
  obtain ⟨outcome, next⟩ := result
  obtain ⟨otherOutcome, otherNext⟩ := otherResult
  obtain rfl : otherOutcome = outcome := hopen
  cases otherOutcome with
  | error f => cases f <;> rfl
  | ok connection => exact serveRecords_fst_congr next otherNext r connection

/-- **An answer depends on the entries of the host, the engine and the name of the application
alone**. -/
theorem respond_fst_congr (hentries : other.host.entries = m.host.entries)
    (hengine : other.engine.1 = m.engine.1) (happ : other.appName = m.appName) (r : Request) :
    (other.respond r).1 = (m.respond r).1 := by
  have hopen := openConnection_fst_congr hentries hengine
  unfold respond
  split
  · rfl
  · cases Route.find r.method (Text.percentDecode r.path.toList) with
    | handled endpoint =>
      cases endpoint with
      | root => simp only [serve, happ]
      | health => rfl
      | data => exact serveData_fst_congr hopen r
    | _ => rfl

/-! ### What a use leaves behind -/

/-- What a use of the service leaves behind: the state as it was, or one in which the engine has
been had, at most one connection has been opened and closed again, and messages may have been
logged. -/
def IsUsed (m next : Monitor) : Prop :=
  next = m ∨ ∃ count ≤ 1, ∃ log, next =
    { m.engine.2 with opened := m.opened + count, closed := m.closed + count, log }

namespace IsUsed

theorem host_eq (h : m.IsUsed next) : next.host = m.host := by
  obtain rfl | ⟨count, -, log, rfl⟩ := h
  · rfl
  · exact m.engine_host

theorem isIdle_eq (h : m.IsUsed next) : next.isIdle = m.isIdle := by
  obtain rfl | ⟨count, -, log, rfl⟩ := h
  · rfl
  · rw [Bool.eq_iff_iff]
    simp [isIdle]

theorem opened_eq (h : m.IsUsed next) : next.opened = m.opened ∨ next.opened = m.opened + 1 := by
  obtain rfl | ⟨count, hcount, log, rfl⟩ := h
  · exact .inl rfl
  · show m.opened + count = m.opened ∨ m.opened + count = m.opened + 1
    omega

theorem appName_eq (h : m.IsUsed next) : next.appName = m.appName := by
  obtain rfl | ⟨count, -, log, rfl⟩ := h
  · rfl
  · exact m.engine_appName

theorem engine_fst_eq (h : m.IsUsed next) : next.engine.1 = m.engine.1 := by
  obtain rfl | ⟨count, -, log, rfl⟩ := h
  · rfl
  · rw [← m.engine_engine_fst]
    exact engine_fst_congr rfl rfl rfl rfl

/-- A request is answered as if the service had not been used. -/
theorem respond_fst_eq (h : m.IsUsed next) (r : Request) :
    (next.respond r).1 = (m.respond r).1 :=
  respond_fst_congr (by rw [h.host_eq]) h.engine_fst_eq h.appName_eq r

end IsUsed

/-! ### Connections -/

theorem engine_opened (m : Monitor) : m.engine.2.opened = m.opened := by
  obtain ⟨settings, engine, hframe⟩ := m.engine_frame
  rw [hframe]

theorem engine_closed (m : Monitor) : m.engine.2.closed = m.closed := by
  obtain ⟨settings, engine, hframe⟩ := m.engine_frame
  rw [hframe]

/-- A connection that is opened is counted. -/
theorem connect_snd_of_ok {connection : Connection} (h : m.connect.1 = .ok connection) :
    m.connect.2 = { m.engine.2 with opened := m.opened + 1 } := by
  rw [← m.engine_opened]
  unfold connect at h ⊢
  generalize m.engine = result at h ⊢
  obtain ⟨outcome, next⟩ := result
  cases outcome with
  | error f => cases h
  | ok engine =>
    dsimp only at h ⊢
    cases hconnect : next.host.connect engine with
    | error e =>
      rw [hconnect] at h
      cases h
    | ok opened => rfl

theorem connect_snd_of_error {f : Failure} (h : m.connect.1 = .error f) :
    m.connect.2 = m.engine.2 := by
  unfold connect at h ⊢
  generalize m.engine = result at h ⊢
  obtain ⟨outcome, next⟩ := result
  cases outcome with
  | error f => rfl
  | ok engine =>
    dsimp only at h ⊢
    cases hconnect : next.host.connect engine with
    | error e => rfl
    | ok opened =>
      rw [hconnect] at h
      cases h

theorem isUsed_of_connect_error {f : Failure} (h : m.connect.1 = .error f)
    (log : List Log.Entry) : m.IsUsed { m.connect.2 with log } := by
  refine .inr ⟨0, Nat.zero_le 1, log, ?_⟩
  rw [connect_snd_of_error h, Nat.add_zero, Nat.add_zero, ← m.engine_opened, ← m.engine_closed]

theorem isUsed_of_connect_ok {connection : Connection} (h : m.connect.1 = .ok connection)
    (log : List Log.Entry) : m.IsUsed { m.connect.2 with log }.disconnect := by
  refine .inr ⟨1, le_rfl, log, ?_⟩
  rw [connect_snd_of_ok h, disconnect, ← m.engine_closed]

theorem isUsed_of_openConnection_error {f : Failure} (h : m.openConnection.1 = .error f) :
    m.IsUsed m.openConnection.2 := by
  cases hout : m.outage? with
  | some outage =>
    obtain ⟨engine, reason⟩ := outage
    rw [openConnection_of_outage? hout]
    unfold outage? at hout
    split at hout
    · rename_i hconnect
      exact isUsed_of_connect_error hconnect _
    · cases hout
  | none =>
    rw [openConnection_of_outage?_eq_none hout] at h ⊢
    exact isUsed_of_connect_error h _

theorem isUsed_of_openConnection_ok {connection : Connection}
    (h : m.openConnection.1 = .ok connection) (log : List Log.Entry) :
    m.IsUsed { m.openConnection.2 with log }.disconnect := by
  cases hout : m.outage? with
  | some outage =>
    rw [openConnection_of_outage? hout] at h
    cases h
  | none =>
    rw [openConnection_of_outage?_eq_none hout] at h ⊢
    exact isUsed_of_connect_ok h log

/-! ### Uses of the service -/

theorem records_snd (m : Monitor) (connection : Connection) (since : Option Int) :
    ∃ log, (m.records connection since).2 = { m with log } := by
  unfold records
  split
  · exact ⟨m.log, rfl⟩
  · exact ⟨_, rfl⟩

theorem serveRecords_snd (m : Monitor) (r : Request) (connection : Connection) :
    ∃ log, (m.serveRecords r connection).2 = { m with log } := by
  unfold serveRecords
  split
  · exact ⟨m.log, rfl⟩
  · rename_i since _
    obtain ⟨log, hlog⟩ := m.records_snd connection since
    refine ⟨log, ?_⟩
    split <;> rename_i hrecords <;> rw [← hlog, hrecords]

theorem serveData_isUsed (m : Monitor) (r : Request) : m.IsUsed (m.serveData r).2 := by
  have hrefused := @isUsed_of_openConnection_error m
  have hopened := @isUsed_of_openConnection_ok m
  unfold serveData
  generalize m.openConnection = result at hrefused hopened ⊢
  obtain ⟨outcome, next⟩ := result
  cases outcome with
  | error f => cases f <;> exact hrefused rfl
  | ok connection =>
    -- However the request is answered, the connection is closed after it.
    obtain ⟨log, hlog⟩ := next.serveRecords_snd r connection
    dsimp only
    rw [hlog]
    exact hopened rfl log

/-- **A request opens at most one connection and closes it**, however it is answered. -/
theorem respond_isUsed (m : Monitor) (r : Request) : m.IsUsed (m.respond r).2 := by
  unfold respond
  split
  · exact .inl rfl
  · cases Route.find r.method (Text.percentDecode r.path.toList) with
    | handled endpoint =>
      cases endpoint with
      | data => exact m.serveData_isUsed r
      | _ => exact .inl rfl
    | _ => exact .inl rfl

theorem session_isUsed (m : Monitor) (query : Bool) (thrown : Option String) :
    m.IsUsed (m.session query thrown).2 := by
  have hrefused := @isUsed_of_openConnection_error m
  have hopened := @isUsed_of_openConnection_ok m
  unfold session
  generalize m.openConnection = result at hrefused hopened ⊢
  obtain ⟨outcome, next⟩ := result
  cases outcome with
  | error f => exact hrefused rfl
  | ok connection =>
    -- The connection is closed before it is seen whether the query failed.
    dsimp only
    split <;> exact hopened rfl next.log

theorem openAndClose_isUsed (m : Monitor) : m.IsUsed m.openAndClose.2 := by
  have hrefused := @isUsed_of_openConnection_error m
  have hopened := @isUsed_of_openConnection_ok m
  unfold openAndClose
  generalize m.openConnection = result at hrefused hopened ⊢
  obtain ⟨outcome, next⟩ := result
  cases outcome with
  | error f => exact hrefused rfl
  | ok connection => exact hopened rfl next.log

theorem list_isUsed (m : Monitor) (since : Option Int) : m.IsUsed (m.list since).2 := by
  have hrefused := @isUsed_of_connect_error m
  have hopened := @isUsed_of_connect_ok m
  unfold list
  generalize m.connect = result at hrefused hopened ⊢
  obtain ⟨outcome, next⟩ := result
  cases outcome with
  | error f => exact hrefused rfl next.log
  | ok connection =>
    obtain ⟨log, hlog⟩ := next.records_snd connection since
    dsimp only
    rw [hlog]
    exact hopened rfl log

/-- Whether a step uses the service and changes nothing around it. -/
def Step.isUse : Step → Bool
  | .list _ | .request _ | .openAndClose | .session .. => true
  | _ => false

theorem perform_isUsed {step : Step} (hstep : step.isUse = true) (m : Monitor) :
    m.IsUsed (m.perform step).2 := by
  cases step with
  | list since =>
    rw [perform, ofOutcome_snd]
    exact m.list_isUsed since
  | request r => exact m.respond_isUsed r
  | openAndClose =>
    rw [perform, ofOutcome_snd]
    exact m.openAndClose_isUsed
  | session query thrown =>
    rw [perform, ofOutcome_snd]
    exact m.session_isUsed query thrown
  | _ => cases hstep

/-! ### Changes of the store -/

/-- A change of the store leaves behind what a use does, apart from the host. -/
theorem change_isUsed {α : Type} (m : Monitor)
    (f : Store.Database → Except Store.Error (Store.Database × α)) :
    m.IsUsed { (m.change f).2 with host := m.host } := by
  have hrefused := @isUsed_of_connect_error m
  have hopened := @isUsed_of_connect_ok m
  have hhost := m.connect_host
  unfold change
  generalize m.connect = result at hrefused hopened hhost ⊢
  obtain ⟨outcome, next⟩ := result
  rw [← hhost]
  cases outcome with
  | error e => exact hrefused rfl next.log
  | ok connection =>
    dsimp only
    split <;> exact hopened rfl next.log

theorem change_keeps {α : Type} (m : Monitor)
    (f : Store.Database → Except Store.Error (Store.Database × α)) :
    (m.change f).2.host.environment = m.host.environment ∧
      (m.change f).2.host.variableFile = m.host.variableFile := by
  rcases m.change_host f with hsame | ⟨connection, db, next, result, hconnect, hdb, -, hsaved⟩
  · rw [hsame]
    exact ⟨rfl, rfl⟩
  · obtain ⟨engine, hengine⟩ := exists_of_connect hconnect
    rw [hsaved]
    exact ⟨Host.save_environment _ _ _, Host.save_variableFile hengine hdb next⟩

/-- Whether a step changes the store, or the files around it other than the variable file. -/
def Step.isStoreChange : Step → Bool
  | .load .. | .update .. | .delete .. | .createTables _ | .dropTable _ | .makeDirectory _ => true
  | .writeFile name _ => Host.pathOf name != Host.variableFilePath
  | _ => false

/-- What is true of a state of the service that was in the first state before. -/
structure Continues (first m : Monitor) : Prop where
  isIdle : m.isIdle = true
  engine : m.engine.1 = first.engine.1
  appName : m.appName = first.appName
  environment : m.host.environment = first.host.environment
  variableFile : m.host.variableFile = first.host.variableFile

namespace Continues

variable {first : Monitor}

theorem of_isUsed (h : first.Continues m) (hused : m.IsUsed next) : first.Continues next where
  isIdle := hused.isIdle_eq.trans h.isIdle
  engine := hused.engine_fst_eq.trans h.engine
  appName := hused.appName_eq.trans h.appName
  environment := by rw [hused.host_eq, h.environment]
  variableFile := by rw [hused.host_eq, h.variableFile]

/-- The files of the host may change, except for the variable file. -/
theorem of_host (h : first.Continues m) {host : Host}
    (henvironment : host.environment = m.host.environment)
    (hvariables : host.variableFile = m.host.variableFile) :
    first.Continues { m with host } where
  isIdle := h.isIdle
  engine := by
    have hengine : ({ m with host } : Monitor).engine.1 = m.engine.1 :=
      engine_fst_congr rfl rfl henvironment hvariables
    exact hengine.trans h.engine
  appName := h.appName
  environment := henvironment.trans h.environment
  variableFile := hvariables.trans h.variableFile

theorem change (h : first.Continues m) {α : Type}
    (f : Store.Database → Except Store.Error (Store.Database × α)) :
    first.Continues (m.change f).2 := by
  -- First the service is used, and then the host is another one.
  obtain ⟨henvironment, hvariables⟩ := m.change_keeps f
  exact (h.of_isUsed (m.change_isUsed f)).of_host henvironment hvariables

theorem perform_storeChange (h : first.Continues m) {step : Step}
    (hstep : step.isStoreChange = true) : first.Continues (m.perform step).2 := by
  cases step with
  | load mode cards snapshots =>
    rw [perform, ofOutcome_snd]
    exact h.change _
  | update table condition assignment =>
    rw [perform, ofOutcome_snd]
    exact h.change _
  | delete table condition =>
    rw [perform, ofOutcome_snd]
    exact h.change _
  | createTables enforced =>
    rw [perform, ofOutcome_snd]
    exact h.change _
  | dropTable table =>
    rw [perform, ofOutcome_snd]
    exact h.change _
  | makeDirectory name =>
    obtain ⟨henvironment, hvariables⟩ := m.host.makeDirectory_keeps (Host.pathOf name)
    exact h.of_host henvironment hvariables
  | writeFile name content =>
    have hpath : Host.pathOf name ≠ Host.variableFilePath := by
      simpa [Step.isStoreChange] using hstep
    exact h.of_host rfl (Host.writeFile_variableFile hpath content)
  | _ => cases hstep

end Continues

/-! ### Runs -/

/-- A state of the service that was in the first state before.  In between it was used, the store
was changed, and the files of the host became any others, but for the variable file. -/
inductive Becomes (first : Monitor) : Monitor → Prop where
  | refl : Becomes first first
  | use {m : Monitor} {step : Step} (hm : Becomes first m) (hstep : step.isUse = true) :
    Becomes first (m.perform step).2
  | storeChange {m : Monitor} {step : Step} (hm : Becomes first m)
    (hstep : step.isStoreChange = true) : Becomes first (m.perform step).2
  | replaced {m : Monitor} {host : Host} (hm : Becomes first m)
    (henvironment : host.environment = m.host.environment)
    (hvariables : host.variableFile = m.host.variableFile) : Becomes first { m with host }

theorem Becomes.continues {first : Monitor} (h : first.Becomes m) (hidle : first.isIdle = true) :
    first.Continues m := by
  induction h with
  | refl => exact ⟨hidle, rfl, rfl, rfl, rfl⟩
  | use _ hstep ih => exact ih.of_isUsed (perform_isUsed hstep _)
  | storeChange _ hstep ih => exact ih.perform_storeChange hstep
  | replaced _ henvironment hvariables ih => exact ih.of_host henvironment hvariables

theorem Becomes.run {first : Monitor} {steps : List Step}
    (hsteps : ∀ step ∈ steps, (step.isUse || step.isStoreChange) = true) :
    first.Becomes (first.run steps).2 := by
  refine run_preserves (P := first.Becomes) (fun m step hm hstep => ?_) .refl hsteps
  rcases Bool.or_eq_true_iff.mp hstep with huse | hchange
  · exact hm.use huse
  · exact hm.storeChange hchange

/-- The service started anew where it runs, with the application that it has loaded. -/
def restart (m : Monitor) : Monitor :=
  { start m.host with appName := m.appName }

/-- As long as nothing is kept, a service that is started anew finds the same engine. -/
theorem Continues.restart_engine_fst {first : Monitor} (h : first.Continues m)
    (hsettings : first.keptSettings = none) (hengine : first.keptEngine = none) :
    m.restart.engine.1 = m.engine.1 := by
  have hrestart : m.restart.engine.1 = first.engine.1 :=
    engine_fst_congr hsettings.symm hengine.symm h.environment h.variableFile
  exact hrestart.trans h.engine.symm

/-- **The service reads only, leaks nothing and remembers nothing**.  Whatever happened since no
connection was open, none is open now.  A use of the service leaves the host as it is, and opens at
most one connection, which is closed again.  A request is answered as in any other session on the
same store that has the engine and the application of the first state; and if that state kept
nothing, as if the service were started anew. -/
theorem service_keeps_no_memory {first m : Monitor} (hidle : first.isIdle = true)
    (h : first.Becomes m) :
    m.isIdle = true ∧
    (∀ step, step.isUse = true →
      (m.perform step).2.host = m.host ∧ (m.perform step).2.isIdle = true ∧
        ((m.perform step).2.opened = m.opened ∨ (m.perform step).2.opened = m.opened + 1)) ∧
    (∀ (r : Request) (fresh : Monitor), fresh.host.entries = m.host.entries →
      fresh.engine.1 = first.engine.1 → fresh.appName = first.appName →
      (m.respond r).1 = (fresh.respond r).1) ∧
    (first.keptSettings = none → first.keptEngine = none → ∀ r : Request,
      (m.respond r).1 = (m.restart.respond r).1) := by
  have hm := h.continues hidle
  refine ⟨hm.isIdle, fun step hstep => ?_, fun r fresh hentries hengine happ => ?_,
    fun hsettings hengine r => ?_⟩
  · have hused := perform_isUsed hstep m
    exact ⟨hused.host_eq, hused.isIdle_eq.trans hm.isIdle, hused.opened_eq⟩
  · exact respond_fst_congr hentries.symm (hm.engine.trans hengine.symm)
      (hm.appName.trans happ.symm) r
  · symm
    apply respond_fst_congr
    · rfl
    · exact hm.restart_engine_fst hsettings hengine
    · rfl

/-- The service with the small store after a request, a session that ends with an error, the loss of
the database, and a request that fails for it. -/
def smallLost : Monitor :=
  (smallStart.run (smallSteps (-1) ++
    [.request (asking ""), .session true (some "stop"), .writeFile "monitor.db" [1],
     .request (asking "since=95")])).2

theorem service_keeps_no_memory_small :
    smallLost.isIdle = true ∧
    (smallLost.perform .openAndClose).2.host = smallLost.host ∧
    (∀ r, (smallLost.respond r).1 = (smallLost.restart.respond r).1) ∧
    ∀ r, (smallLost.respond r).1 =
      (({ smallStart with host := smallLost.host } : Monitor).respond r).1 := by
  have hstart : smallStart.isIdle = true := by decide
  have hbecomes : smallStart.Becomes smallLost := Becomes.run (by decide +kernel)
  have hvariables : smallLost.host.variableFile = smallStart.host.variableFile :=
    (hbecomes.continues hstart).variableFile
  have henvironment : smallLost.host.environment = smallStart.host.environment :=
    (hbecomes.continues hstart).environment
  obtain ⟨hidle, huses, hreply, hrestart⟩ := service_keeps_no_memory hstart hbecomes
  refine ⟨hidle, (huses .openAndClose rfl).1, hrestart rfl rfl, fun r => ?_⟩
  exact hreply r _ rfl (engine_fst_congr rfl rfl henvironment hvariables) rfl

end Monitor

end CardHealth
