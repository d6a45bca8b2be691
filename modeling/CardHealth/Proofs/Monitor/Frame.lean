import CardHealth.Monitor.Step

/-!
# What leaves the host as it is

The service only reads: settings, engines, connections, queries, requests and the smoke client leave
the host as it is.  Of the steps, only those that change the store or the host itself do not, and
`change_cases` says what becomes of a changed store.
-/

namespace CardHealth

open Http

namespace Monitor

/-! ### Settings, engines and connections -/

/-- Reading the settings may keep them, and changes nothing else. -/
theorem settings_frame (m : Monitor) :
    ∃ settings, m.settings.2 = { m with keptSettings := settings } := by
  unfold settings
  split
  · exact ⟨_, rfl⟩
  · split <;> exact ⟨_, rfl⟩

/-- Having the engine may keep it and the settings, and changes nothing else. -/
theorem engine_frame (m : Monitor) :
    ∃ settings engine,
      m.engine.2 = { m with keptSettings := settings, keptEngine := engine } := by
  obtain ⟨settings, hframe⟩ := m.settings_frame
  unfold engine
  split
  · exact ⟨_, _, rfl⟩
  · split
    · rename_i hsettings
      rw [hsettings] at hframe
      exact ⟨_, _, hframe⟩
    · rename_i hsettings
      rw [hsettings] at hframe
      obtain rfl := hframe
      split <;> exact ⟨_, _, rfl⟩

/-- Opening a connection may count it besides, and changes nothing else. -/
theorem connect_frame (m : Monitor) :
    ∃ settings engine opened, m.connect.2 =
      { m with keptSettings := settings, keptEngine := engine, opened := opened } := by
  obtain ⟨settings, engine, hframe⟩ := m.engine_frame
  unfold connect
  split
  · rename_i hengine
    rw [hengine] at hframe
    exact ⟨_, _, _, hframe⟩
  · rename_i hengine
    rw [hengine] at hframe
    obtain rfl := hframe
    split <;> exact ⟨_, _, _, rfl⟩

@[simp] theorem settings_host (m : Monitor) : m.settings.2.host = m.host := by
  obtain ⟨settings, hframe⟩ := m.settings_frame
  rw [hframe]

@[simp] theorem engine_host (m : Monitor) : m.engine.2.host = m.host := by
  obtain ⟨settings, engine, hframe⟩ := m.engine_frame
  rw [hframe]

@[simp] theorem connect_host (m : Monitor) : m.connect.2.host = m.host := by
  obtain ⟨settings, engine, opened, hframe⟩ := m.connect_frame
  rw [hframe]

@[simp] theorem settings_appName (m : Monitor) : m.settings.2.appName = m.appName := by
  obtain ⟨settings, hframe⟩ := m.settings_frame
  rw [hframe]

@[simp] theorem engine_appName (m : Monitor) : m.engine.2.appName = m.appName := by
  obtain ⟨settings, engine, hframe⟩ := m.engine_frame
  rw [hframe]

@[simp] theorem clear_host (m : Monitor) (settings engine : Bool) :
    (m.clear settings engine).host = m.host :=
  rfl

@[simp] theorem reload_host (m : Monitor) : m.reload.2.host = m.host := by
  have h := m.settings_host
  unfold reload
  split
  · rename_i hsettings
    rw [← h, hsettings]
  · rename_i hsettings
    dsimp only
    split <;> rw [← h, hsettings]

@[simp] theorem disconnect_host (m : Monitor) : m.disconnect.host = m.host :=
  rfl

@[simp] theorem report_host (m : Monitor) (entry : Log.Entry) : (m.report entry).host = m.host :=
  rfl

@[simp] theorem openConnection_host (m : Monitor) : m.openConnection.2.host = m.host := by
  have h := m.connect_host
  unfold openConnection
  split
  · rename_i hconnect
    rw [← h, hconnect]
    rfl
  · exact h

@[simp] theorem performEngine_host (m : Monitor) : m.performEngine.2.host = m.host := by
  have h := m.engine_host
  unfold performEngine
  split
  · rename_i hengine
    rw [← h, hengine]
  · rename_i next hengine
    have hnext := next.engine_host
    split
    · rename_i hagain
      rw [← h, hengine, ← hnext, hagain]
    · rename_i hagain
      rw [← h, hengine, ← hnext, hagain]

/-! ### Queries and sessions -/

@[simp] theorem records_host (m : Monitor) (connection : Connection) (since : Option Int) :
    (m.records connection since).2.host = m.host := by
  unfold records
  split <;> rfl

@[simp] theorem list_host (m : Monitor) (since : Option Int) : (m.list since).2.host = m.host := by
  have h := m.connect_host
  unfold list
  split
  · rename_i hconnect
    rw [← h, hconnect]
  · rename_i hconnect
    rw [← h, hconnect]
    exact records_host _ _ _

@[simp] theorem session_host (m : Monitor) (query : Bool) (thrown : Option String) :
    (m.session query thrown).2.host = m.host := by
  have h := m.openConnection_host
  unfold session
  split
  · rename_i hconnection
    rw [← h, hconnection]
  · rename_i hconnection
    rw [← h, hconnection]
    dsimp only
    split <;> rfl

@[simp] theorem openAndClose_host (m : Monitor) : m.openAndClose.2.host = m.host := by
  have h := m.openConnection_host
  unfold openAndClose
  split
  · rename_i hconnection
    rw [← h, hconnection]
  · rename_i hconnection
    rw [← h, hconnection]
    rfl

/-! ### Requests -/

@[simp] theorem serveRecords_host (m : Monitor) (r : Request) (connection : Connection) :
    (m.serveRecords r connection).2.host = m.host := by
  unfold serveRecords
  split
  · rfl
  · rename_i since _
    have h := m.records_host connection since
    split <;> rename_i hrecords <;> rw [← h, hrecords]

@[simp] theorem serveData_host (m : Monitor) (r : Request) : (m.serveData r).2.host = m.host := by
  have h := m.openConnection_host
  unfold serveData
  split
  · rename_i hconnection
    rw [← h, hconnection]
  · rename_i hconnection
    rw [← h, hconnection]
  · rename_i hconnection
    rw [← h, hconnection]
    exact serveRecords_host _ _ _

@[simp] theorem respond_host (m : Monitor) (r : Request) : (m.respond r).2.host = m.host := by
  unfold respond
  split
  · rfl
  · split
    · rename_i endpoint _
      cases endpoint with
      | root => rfl
      | health => rfl
      | data => exact m.serveData_host r
    all_goals rfl

end Monitor

/-! ### The smoke client -/

namespace SmokeClient

section Preserves

variable {P : Monitor → Prop} (hrespond : ∀ m r, P m → P (m.respond r).2) {m : Monitor}

include hrespond

theorem fetch_preserves (hm : P m) (raises : Bool) (url : Url) : P (fetch m raises url).2 := by
  unfold fetch
  dsimp only
  split <;> exact hrespond m _ hm

theorem fetchContent_preserves (hm : P m) (raises : Bool) (base : Url) (path : String) :
    P (fetchContent m raises base path).2 := by
  unfold fetchContent
  split
  · exact hm
  · rename_i url _
    have h := fetch_preserves hrespond hm raises url
    split <;> rename_i hfetch <;> rw [hfetch] at h <;> exact h

theorem countRecent_preserves (hm : P m) (raises : Bool) (base : Url) (clock : Clock) :
    P (countRecent m raises base clock).2 := by
  unfold countRecent
  split
  · exact hm
  · exact hm
  · rename_i now url _ _
    have h := fetch_preserves hrespond hm raises
      { url with query := some s!"since={Numeral.render (now - recentSeconds)}" }
    dsimp only
    split
    · rename_i hfetch
      rw [hfetch] at h
      exact h
    · rename_i hfetch
      rw [hfetch] at h
      split <;> exact h

theorem runCards_preserves (hm : P m) (raises : Bool) (base : Url) (clock : Clock)
    (printed : String) (cards : Json) : P (runCards m raises base clock printed cards).2 := by
  have h := countRecent_preserves hrespond hm raises base clock
  unfold runCards
  dsimp only
  split
  · exact hm
  · split <;> rename_i hcount <;> rw [hcount] at h <;> exact h

theorem runAt_preserves (hm : P m) (raises : Bool) (base : Url) (clock : Clock) :
    P (runAt m raises base clock).2 := by
  have hhealth := fetchContent_preserves hrespond hm raises base "/health"
  unfold runAt
  split
  · rename_i hfetch
    rw [hfetch] at hhealth
    exact hhealth
  · rename_i status health next hfetch
    rw [hfetch] at hhealth
    have hdata := fetchContent_preserves hrespond hhealth raises base "/data"
    dsimp only
    split
    · rename_i hfetch
      rw [hfetch] at hdata
      exact hdata
    · rename_i hfetch
      rw [hfetch] at hdata
      split
      · exact runCards_preserves hrespond hdata raises base clock _ _
      · exact hdata

/-- **The client only sends requests**: what every request keeps, a run of the client keeps. -/
theorem run_preserves (hm : P m) (raises : Bool) (clock : Clock) :
    P (run m raises clock).2 := by
  unfold run
  split
  · exact hm
  · exact runAt_preserves hrespond hm raises _ clock

end Preserves

@[simp] theorem run_host (m : Monitor) (raises : Bool) (clock : Clock) :
    (run m raises clock).2.host = m.host :=
  run_preserves (P := fun next => next.host = m.host)
    (fun next r hnext => (next.respond_host r).trans hnext) rfl raises clock

end SmokeClient

/-! ### Changes -/

namespace Monitor

/-- **What becomes of a changed store**: either the change cannot be made, which is a failure, and
the host is as it was; or it can, and the changed store is kept behind the connection through which
it was changed. -/
theorem change_cases {α : Type} (m : Monitor)
    (f : Store.Database → Except Store.Error (Store.Database × α)) :
    ((∀ connection db result, m.connect.1 = .ok connection → connection.database = .ok db →
        f db ≠ .ok result) ∧
      (∃ failure, (m.change f).1 = .error failure) ∧ (m.change f).2.host = m.host) ∨
      ∃ connection db next result, m.connect.1 = .ok connection ∧ connection.database = .ok db ∧
        f db = .ok (next, result) ∧ (m.change f).1 = .ok result ∧
        (m.change f).2.host = m.host.save connection next := by
  have h := m.connect_host
  unfold change
  generalize m.connect = opened at h ⊢
  obtain ⟨outcome, next⟩ := opened
  cases outcome with
  | error failure => exact .inl ⟨by simp, ⟨failure, rfl⟩, h⟩
  | ok connection =>
    cases hdb : connection.database with
    | error e =>
      refine .inl ⟨?_, ⟨.store e, by simp [hdb, Except.bind]⟩, by simpa [hdb, Except.bind] using h⟩
      rintro _ db result ⟨⟩ hfound
      exact absurd (hdb.symm.trans hfound) (by simp)
    | ok db =>
      cases hf : f db with
      | error e =>
        refine .inl ⟨?_, ⟨.store e, by simp [hdb, hf, Except.bind]⟩,
          by simpa [hdb, hf, Except.bind] using h⟩
        rintro _ found result ⟨⟩ hfound
        obtain rfl := Except.ok.inj (hdb.symm.trans hfound)
        simp [hf]
      | ok result =>
        refine .inr ⟨connection, db, result.1, result.2, rfl, hdb, hf, ?_, ?_⟩
        · simp [hdb, hf, Except.bind]
        · rw [← h]
          simp [hdb, hf, Except.bind]

theorem change_host {α : Type} (m : Monitor)
    (f : Store.Database → Except Store.Error (Store.Database × α)) :
    (m.change f).2.host = m.host ∨
      ∃ connection db next result, m.connect.1 = .ok connection ∧ connection.database = .ok db ∧
        f db = .ok (next, result) ∧ (m.change f).2.host = m.host.save connection next := by
  rcases m.change_cases f with ⟨-, -, hsame⟩ |
    ⟨connection, db, next, result, hc, hdb, hf, -, hsaved⟩
  · exact .inl hsame
  · exact .inr ⟨connection, db, next, result, hc, hdb, hf, hsaved⟩

end Monitor

end CardHealth
