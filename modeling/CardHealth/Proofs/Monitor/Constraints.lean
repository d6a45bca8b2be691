import CardHealth.Proofs.Monitor.List
import CardHealth.Proofs.Store.Changes

/-!
# Constraints and whole changes

In every reached state the tables meet what their columns declare, and a change is made as a whole
or not at all (`constraints_hold_and_changes_are_whole`): rows are loaded all or none, an update
replaces all rows that it matches or none, and a step that fails leaves every table as it was.
-/

namespace CardHealth

open Store

/-! ### Declared constraints -/

namespace Store

variable {κ : Type} {schema : Schema κ}

/-- The value that a column keeps when it is given this one. -/
def Schema.keep (schema : Schema κ) (c : κ) (cell : Cell) : Cell :=
  (schema.column c).type.affinity.apply cell

/-- Rows whose required columns and key columns are all filled. -/
def Schema.IsFilled (schema : Schema κ) (rows : List (Row κ)) : Prop :=
  ∀ row ∈ rows, ∀ c, (schema.column c).nullable = false ∨ c ∈ schema.key → row c ≠ .null

variable {table : Table κ}

theorem Table.Intact.ne_null (h : table.Intact schema) (hcolumns : ∀ c, c ∈ schema.columns)
    {row : Row κ} (hrow : row ∈ table.rows) {c : κ} (hc : (schema.column c).nullable = false) :
    row c ≠ .null := by
  have hnone := List.find?_eq_none.mp (h.nullColumn? row hrow) c (hcolumns c)
  simpa [hc] using hnone

theorem Table.Intact.isFilled (h : table.Intact schema) (hcolumns : ∀ c, c ∈ schema.columns)
    (hkey : ∀ c ∈ schema.key, (schema.column c).nullable = false) :
    schema.IsFilled table.rows := by
  rintro row hrow c (hc | hc)
  · exact h.ne_null hcolumns hrow hc
  · exact h.ne_null hcolumns hrow (hkey c hc)

/-- Since columns keep what they have stored, keys differ as their columns keep them. -/
theorem Table.Intact.pairwise_keep (h : table.Intact schema) :
    table.rows.Pairwise fun a b =>
      ¬ ∀ c ∈ schema.key, (schema.keep c (a c)).equals (schema.keep c (b c)) = true := by
  refine h.pairwise_key.imp_of_mem fun ha hb hab hequal => ?_
  have hsame : schema.sameKey _ _ = true := List.all_eq_true.mpr fun c hc => by
    have hkept := hequal c hc
    rwa [Schema.keep, Schema.keep, h.isKept _ ha c, h.isKept _ hb c] at hkept
  rw [hab] at hsame
  cases hsame

end Store

namespace Monitor

variable {m : Monitor}

/-! ### Steps that fail -/

/-- Whether a step has failed. -/
def Answer.isFailed : Answer → Bool
  | .failed _ => true
  | _ => false

section Outcome

variable {α : Type} {answer : α → Answer} {outcome : Except Failure α × Monitor}

theorem ofOutcome_fst_of_ok {a : α} (h : outcome.1 = .ok a) :
    (Answer.ofOutcome answer outcome).1 = answer a := by
  obtain ⟨result, next⟩ := outcome
  obtain rfl := h
  rfl

theorem ofOutcome_fst_of_error {f : Failure} (h : outcome.1 = .error f) :
    (Answer.ofOutcome answer outcome).1 = .failed f := by
  obtain ⟨result, next⟩ := outcome
  obtain rfl := h
  rfl

theorem exists_error_of_isFailed (hanswer : ∀ a, (answer a).isFailed = false)
    (h : (Answer.ofOutcome answer outcome).1.isFailed = true) : ∃ f, outcome.1 = .error f := by
  cases houtcome : outcome.1 with
  | error f => exact ⟨f, rfl⟩
  | ok a =>
    rw [ofOutcome_fst_of_ok houtcome, hanswer a] at h
    cases h

end Outcome

/-- A change that fails is none. -/
theorem change_host_of_error {α : Type}
    {f : Database → Except Store.Error (Database × α)} {failure : Failure}
    (h : (m.change f).1 = .error failure) : (m.change f).2.host = m.host := by
  rcases m.change_cases f with ⟨-, -, hsame⟩ | ⟨_, _, _, _, -, -, -, hok, -⟩
  · exact hsame
  · rw [h] at hok
    cases hok

/-- **A step that fails leaves the host as it was**. -/
theorem perform_host_of_isFailed {step : Step} (h : (m.perform step).1.isFailed = true) :
    (m.perform step).2.host = m.host := by
  cases step with
  | load | update | delete | createTables | dropTable =>
    rw [perform] at h
    obtain ⟨failure, herror⟩ := exists_error_of_isFailed (fun _ => rfl) h
    rw [perform, ofOutcome_snd]
    exact change_host_of_error herror
  | setVariables | writeFile | makeDirectory => cases h
  | _ => simp [perform]

/-! ### Whole changes -/

/-- A step that changes the store as a relation says, if all constraints are met then: the changed
store is kept, and the result is told.  Otherwise it fails, and the host is as it was. -/
def ChangesBy {α : Type} (m : Monitor) (step : Step) (answer : α → Answer)
    (r : Database → Database → α → Prop) : Prop :=
  (∃ connection db next result, m.connect.1 = .ok connection ∧ connection.database = .ok db ∧
    r db next result ∧ next.Intact ∧ (m.perform step).1 = answer result ∧
    (m.perform step).2.host = m.host.save connection next) ∨
  (∀ connection db next result, m.connect.1 = .ok connection → connection.database = .ok db →
    r db next result → ¬ next.Intact) ∧
  (m.perform step).1.isFailed = true ∧ (m.perform step).2.host = m.host

/-- A step whose change succeeds exactly if the constraints are met. -/
theorem changesBy_of_eq_ok_iff {α : Type} (hm : m.host.Intact) {step : Step} {answer : α → Answer}
    {f : Database → Except Store.Error (Database × α)}
    (hstep : m.perform step = Answer.ofOutcome answer (m.change f))
    {r : Database → Database → α → Prop}
    (hf : ∀ db next result, db.Intact →
      (f db = .ok (next, result) ↔ r db next result ∧ next.Intact)) :
    m.ChangesBy step answer r := by
  have hhost : (m.perform step).2.host = (m.change f).2.host := by rw [hstep, ofOutcome_snd]
  rcases m.change_cases f with ⟨hnone, ⟨failure, herror⟩, hsame⟩ |
    ⟨connection, db, next, result, hconnect, hdb, hchange, hok, hsaved⟩
  · refine .inr ⟨fun connection db next result hconnect hdb hr hnext => ?_, ?_,
      hhost.trans hsame⟩
    · exact hnone connection db _ hconnect hdb
        ((hf db next result (intact_of_connect hm hconnect hdb)).mpr ⟨hr, hnext⟩)
    · rw [hstep, ofOutcome_fst_of_error herror]
      rfl
  · obtain ⟨hr, hnext⟩ := (hf db next result (intact_of_connect hm hconnect hdb)).mp hchange
    refine .inl ⟨connection, db, next, result, hconnect, hdb, hr, hnext, ?_, hhost.trans hsaved⟩
    rw [hstep, ofOutcome_fst_of_ok hok]

theorem changesBy_load (hm : m.host.Intact) (mode : InsertMode)
    (cards snapshots : List (List (String × Value))) :
    m.ChangesBy (.load mode cards snapshots) (fun _ => .done)
      fun db next (_ : Unit) => db.Loads mode cards snapshots next := by
  refine changesBy_of_eq_ok_iff hm rfl fun db next result hdb => ?_
  rw [← Database.load_eq_ok_iff hdb, withoutResult, map_eq_ok_iff]
  simp

theorem changesBy_update (hm : m.host.Intact) (table : TableName)
    (condition assignment : List (String × Value)) :
    m.ChangesBy (.update table condition assignment) .changed
      (Database.Updates table condition assignment) :=
  changesBy_of_eq_ok_iff hm rfl fun _ _ _ hdb => Database.update_eq_ok_iff hdb

/-- **The constraints hold and changes are whole**.  In every reached state, required columns and
key columns are filled, no two cards have equal identifiers, and no two snapshots have both equal
identifiers and equal times, as the columns keep them.  A step that fails leaves the host as it
was.  A load adds one row for each of the given ones, or fails because not all of them can be made
and meet the constraints; and so does an update with the rows that it matches. -/
theorem constraints_hold_and_changes_are_whole (hm : m.Reached) :
    (∀ path db, (path, Entry.database db) ∈ m.host.entries →
      (∀ table ∈ db.cards, cardSchema.IsFilled table.rows ∧
        table.rows.Pairwise fun a b =>
          ¬ (cardSchema.keep .id (a .id)).equals (cardSchema.keep .id (b .id)) = true) ∧
      ∀ table ∈ db.snapshots, snapshotSchema.IsFilled table.rows ∧
        table.rows.Pairwise fun a b =>
          ¬ ((snapshotSchema.keep .id (a .id)).equals (snapshotSchema.keep .id (b .id)) = true ∧
            (snapshotSchema.keep .lastUpdated (a .lastUpdated)).equals
              (snapshotSchema.keep .lastUpdated (b .lastUpdated)) = true)) ∧
    (∀ step, (m.perform step).1.isFailed = true → (m.perform step).2.host = m.host) ∧
    (∀ mode cards snapshots, m.ChangesBy (.load mode cards snapshots) (fun _ => .done)
      fun db next (_ : Unit) => db.Loads mode cards snapshots next) ∧
    ∀ table condition assignment, m.ChangesBy (.update table condition assignment) .changed
      (Database.Updates table condition assignment) := by
  have hintact := hm.intact
  refine ⟨fun path db hdb => ⟨fun table htable => ?_, fun table htable => ?_⟩,
    fun step => perform_host_of_isFailed, changesBy_load hintact, changesBy_update hintact⟩
  · have hcards := (hintact path db hdb).cards table htable
    refine ⟨hcards.isFilled (by rintro ⟨⟩ <;> decide) (by decide), ?_⟩
    simpa [cardSchema] using hcards.pairwise_keep
  · have hsnapshots := (hintact path db hdb).snapshots table htable
    refine ⟨hsnapshots.isFilled (by rintro ⟨⟩ <;> decide) (by decide), ?_⟩
    simpa [snapshotSchema] using hsnapshots.pairwise_keep

/-- Changes of the small store that are refused: the second snapshot has the key of one that is
there, both matching snapshots would have one key, and a rate that is no number is null. -/
def refusedSteps : List Step :=
  [.load .records []
    [[("id", .int 7), ("last_updated", .int 1)],
     [("id", .text "1"), ("last_updated", .float (.ofInt 100))]],
   .update .snapshots [("id", .int 1)] [("last_updated", .int 90)],
   .update .snapshots [("id", .int 2)] [("rate", .float .nan)]]

theorem constraints_hold_and_changes_are_whole_small :
    (∀ step ∈ refusedSteps, ((small (-1)).perform step).2.host = (small (-1)).host) ∧
    (∃ path db, (path, Entry.database db) ∈ (small (-1)).host.entries ∧
      ∃ table ∈ db.snapshots, table.rows.length = 4 ∧ snapshotSchema.IsFilled table.rows) ∧
    ∃ connection db next, (small (-1)).connect.1 = .ok connection ∧
      connection.database = .ok db ∧
      db.Updates .snapshots [("id", .text "1")] [("status", .int 5)] next 2 := by
  obtain ⟨hentries, hfailed, -, hupdate⟩ :=
    constraints_hold_and_changes_are_whole (reached_small (-1))
  refine ⟨fun step hstep => hfailed step ?_, ?_, ?_⟩
  · have hrefused : ∀ step ∈ refusedSteps,
        ((small (-1)).perform step).1.isFailed = true := by decide +kernel
    exact hrefused step hstep
  · have hsmall : ((small (-1)).host.entries.findSome? fun entry =>
        match entry.2 with
        | .database db => db.snapshots.map (·.rows.length)
        | _ => none) = some 4 := by decide +kernel
    obtain ⟨⟨path, entry⟩, hmem, hentry⟩ := List.exists_of_findSome?_eq_some hsmall
    cases entry with
    | database db =>
      obtain ⟨table, htable, hlength⟩ := Option.map_eq_some_iff.mp hentry
      exact ⟨path, db, hmem, table, htable, hlength, ((hentries path db hmem).2 table htable).1⟩
    | _ => cases hentry
  · have hcount : (match ((small (-1)).perform
          (.update .snapshots [("id", .text "1")] [("status", .int 5)])).1 with
        | .changed count => some count
        | _ => none) = some 2 := by decide +kernel
    rcases hupdate .snapshots [("id", .text "1")] [("status", .int 5)] with
      ⟨connection, db, next, count, hconnect, hdb, hupdates, -, hanswer, -⟩ | ⟨-, hrefused, -⟩
    · rw [hanswer] at hcount
      obtain rfl := Option.some.inj hcount
      exact ⟨connection, db, next, hconnect, hdb, hupdates⟩
    · exact absurd hrefused (by decide +kernel)

end Monitor

end CardHealth
