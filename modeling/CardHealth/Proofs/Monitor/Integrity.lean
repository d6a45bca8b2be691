import CardHealth.Proofs.Entries
import CardHealth.Proofs.Monitor.Frame
import CardHealth.Proofs.Store.Integrity

/-!
# Integrity in the life of a monitor

If tables are only created with their constraints, every database on the host stays intact whatever
happens: `perform_intact` shows it of one step, and `Reached.intact` of every state that is reached
from a host without databases.
-/

namespace CardHealth

open Store

/-! ### Hosts -/

/-- Every database on the host is intact. -/
def Host.Intact (h : Host) : Prop :=
  ∀ path db, (path, Entry.database db) ∈ h.entries → db.Intact

namespace Host.Intact

variable {h : Host}

theorem put (hh : h.Intact) {path : List String} {entry : Entry}
    (hentry : ∀ db, entry = .database db → db.Intact) : (h.put path entry).Intact := by
  intro other db hmem
  rcases List.mem_append.mp hmem with hmem | hmem
  · exact hh other db (List.mem_filter.mp hmem).1
  · obtain ⟨-, rfl⟩ := Prod.mk.inj (List.mem_singleton.mp hmem)
    exact hentry db rfl

theorem makeDirectory (hh : h.Intact) (path : List String) : (h.makeDirectory path).Intact := by
  unfold Host.makeDirectory
  generalize (List.range path.length).map (fun n => path.take (n + 1)) = paths
  induction paths generalizing h with
  | nil => exact hh
  | cons path paths ih =>
    rw [List.foldl_cons]
    refine ih ?_
    split
    · exact hh
    · exact hh.put fun db hdb => by cases hdb

theorem setVariables (hh : h.Intact) (changes : List (String × Option String)) :
    (changes.foldl (fun h change => h.setVariable change.1 change.2) h).Intact := by
  induction changes generalizing h with
  | nil => exact hh
  | cons change changes ih => exact ih (h := h.setVariable change.1 change.2) hh

theorem save (hh : h.Intact) (connection : Connection) {db : Database} (hdb : db.Intact) :
    (h.save connection db).Intact := by
  unfold Host.save
  split
  · exact hh
  · refine hh.put ?_
    rintro _ ⟨⟩
    exact hdb

/-- A connection leads to an intact database. -/
theorem connect (hh : h.Intact) {engine : Engine} {connection : Connection}
    (hconnect : h.connect engine = .ok connection) {db : Database}
    (hdb : connection.database = .ok db) : db.Intact := by
  -- The database behind a connection is a new one, or it is an entry of the host.
  unfold Host.connect at hconnect
  split at hconnect
  · cases hconnect
  · split at hconnect
    · obtain rfl := Except.ok.inj hconnect
      obtain rfl := Except.ok.inj hdb
      exact Database.Intact.empty
    · unfold Host.openFile at hconnect
      split at hconnect
      · cases hconnect
      · obtain rfl := Except.ok.inj hconnect
        obtain rfl := Except.ok.inj hdb
        exact Database.Intact.empty
      · obtain rfl := Except.ok.inj hconnect
        cases hdb
      · rename_i found hentry
        obtain rfl := Except.ok.inj hconnect
        obtain rfl := Except.ok.inj hdb
        unfold Host.entry? at hentry
        split at hentry
        · cases hentry
        · exact hh _ found (mem_of_lastNamed? hentry)
      · split at hconnect
        · obtain rfl := Except.ok.inj hconnect
          obtain rfl := Except.ok.inj hdb
          exact Database.Intact.empty
        · cases hconnect

end Host.Intact

/-! ### Steps -/

namespace Monitor

theorem exists_of_connect {m : Monitor} {connection : Connection}
    (h : m.connect.1 = .ok connection) : ∃ engine, m.host.connect engine = .ok connection := by
  have hhost := m.engine_host
  unfold connect at h
  split at h
  · cases h
  · rename_i engine next hengine
    rw [hengine] at hhost
    dsimp only at hhost
    split at h
    · rename_i hconnect
      cases h
      exact ⟨engine, hhost ▸ hconnect⟩
    · cases h

/-- What is behind a connection is intact where every database is. -/
theorem intact_of_connect {m : Monitor} (hm : m.host.Intact) {connection : Connection}
    (hconnect : m.connect.1 = .ok connection) {db : Database}
    (hdb : connection.database = .ok db) : db.Intact := by
  obtain ⟨engine, hengine⟩ := exists_of_connect hconnect
  exact hm.connect hengine hdb

/-- A change that keeps databases intact keeps the host intact. -/
theorem change_intact {α : Type} {m : Monitor} (hm : m.host.Intact)
    {f : Database → Except Store.Error (Database × α)}
    (hf : ∀ db next result, db.Intact → f db = .ok (next, result) → next.Intact) :
    (m.change f).2.host.Intact := by
  rcases m.change_host f with hsame | ⟨connection, db, next, result, hconnect, hdb, hnext, hsaved⟩
  · rw [hsame]
    exact hm
  · rw [hsaved]
    exact hm.save connection (hf db next result (intact_of_connect hm hconnect hdb) hnext)

@[simp] theorem ofOutcome_snd {α : Type} (answer : α → Answer)
    (outcome : Except Failure α × Monitor) : (Answer.ofOutcome answer outcome).2 = outcome.2 := by
  obtain ⟨outcome | outcome, m⟩ := outcome <;> rfl

/-- **A step keeps the databases intact**, unless it creates tables without constraints. -/
theorem perform_intact {m : Monitor} (hm : m.host.Intact) {step : Step}
    (hstep : step ≠ .createTables false) : (m.perform step).2.host.Intact := by
  cases step with
  | load mode cards snapshots =>
    rw [perform, ofOutcome_snd]
    refine change_intact hm fun db next result hdb hnext => ?_
    obtain ⟨loaded, hload, hpair⟩ := map_eq_ok_iff.mp hnext
    obtain rfl := (Prod.mk.inj hpair).1
    exact hdb.load hload
  | update table condition assignment =>
    rw [perform, ofOutcome_snd]
    exact change_intact hm fun db next count hdb hnext => hdb.update hnext
  | delete table condition =>
    rw [perform, ofOutcome_snd]
    exact change_intact hm fun db next count hdb hnext => hdb.delete hnext
  | createTables enforced =>
    obtain rfl : enforced = true := by simpa using hstep
    rw [perform, ofOutcome_snd]
    refine change_intact hm fun db next result hdb hnext => ?_
    obtain rfl := (Prod.mk.inj (Except.ok.inj hnext)).1
    exact hdb.createTables
  | dropTable table =>
    rw [perform, ofOutcome_snd]
    refine change_intact hm fun db next result hdb hnext => ?_
    obtain rfl := (Prod.mk.inj (Except.ok.inj hnext)).1
    exact hdb.drop table
  | setVariables changes => exact hm.setVariables changes
  | writeFile name content => exact hm.put fun db hdb => by cases hdb
  | makeDirectory name => exact hm.makeDirectory _
  | _ =>
    -- The other steps leave the host as it is.
    simpa [perform] using hm

/-- What every step keeps, a run keeps. -/
theorem run_preserves {P : Monitor → Prop} {Q : Step → Prop}
    (hperform : ∀ m step, P m → Q step → P (m.perform step).2) {m : Monitor} (hm : P m)
    {steps : List Step} (hsteps : ∀ step ∈ steps, Q step) : P (m.run steps).2 := by
  induction steps generalizing m with
  | nil => exact hm
  | cons step steps ih =>
    obtain ⟨hstep, hsteps⟩ := List.forall_mem_cons.mp hsteps
    exact ih (hperform m step hm hstep) hsteps

/-! ### Reached states -/

/-- The states that are reached from a host without databases if tables are only created with
their constraints. -/
def Reached (m : Monitor) : Prop :=
  ∃ start steps, (∀ path db, (path, Entry.database db) ∉ start.host.entries) ∧
    Step.createTables false ∉ steps ∧ m = (run start steps).2

/-- **In every reached state the databases are intact**. -/
theorem Reached.intact {m : Monitor} (h : m.Reached) : m.host.Intact := by
  obtain ⟨start, steps, hstart, hsteps, rfl⟩ := h
  refine run_preserves (P := fun m => m.host.Intact) (Q := (· ≠ .createTables false))
    (fun _ _ hm hstep => perform_intact hm hstep) ?_ (fun step hmem hstep => ?_)
  · exact fun path db hmem => absurd hmem (hstart path db)
  · exact hsteps (hstep ▸ hmem)

end Monitor

end CardHealth
