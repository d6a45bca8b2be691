import CardHealth.Host
import CardHealth.Proofs.Entries

/-!
# What changes of the host leave alone

An engine finds its database among the entries of the host, and nothing else of the host counts but
the reason why a server does not answer (`connect_congr`).  New directories and changed databases
leave the variable file as it is, even if a database is kept under the name of the variable file:
such a file was empty before, and a database counts as empty too (`save_variableFile`).
-/

namespace CardHealth.Host

variable {h : Host}

/-! ### Entries -/

/-- On hosts with the same entries an engine finds the same, or a server that does not answer, for
whatever reasons. -/
theorem connect_congr {other : Host} (hentries : h.entries = other.entries) (e : Engine) :
    h.connect e = other.connect e ∨
      ∃ reason reason', h.connect e = .error (.unavailable reason) ∧
        other.connect e = .error (.unavailable reason') := by
  obtain ⟨environment, entries, serverReason⟩ := h
  obtain ⟨environment', entries', serverReason'⟩ := other
  obtain rfl : entries = entries' := hentries
  unfold connect
  cases e.backend with
  | sqlite => exact .inl rfl
  | mysql dialect =>
    dsimp only
    unfold Engine.connectServer
    cases e.refusal? with
    | some error => exact .inl rfl
    | none => exact .inr ⟨_, _, rfl, rfl⟩

theorem entry?_put_ne {path other : List String} (hne : path ≠ other) (entry : Entry) :
    entry? (h.put other entry) path = h.entry? path := by
  unfold entry? put
  dsimp only
  have hkept : lastNamed? path ((h.entries.filter fun e => e.1 != other) ++ [(other, entry)]) =
      lastNamed? path h.entries := by
    have hlast : lastNamed? path [(other, entry)] = none :=
      lastNamed?_eq_none fun e he => by
        rw [List.mem_singleton.mp he]
        exact hne.symm
    rw [lastNamed?_append, hlast, Option.none_or, lastNamed?_filter_ne hne]
  rw [hkept]

theorem entry?_put_self {path : List String} (hpath : path ≠ []) (entry : Entry) :
    entry? (h.put path entry) path = some entry := by
  unfold entry? put
  rw [if_neg (by simpa using hpath)]
  exact lastNamed?_append_cons (by simp) _ _

/-! ### The variable file -/

theorem variableFile_of_ne_file
    (hfile : ∀ content, h.entry? variableFilePath ≠ some (.file content)) :
    h.variableFile = [] := by
  unfold variableFile
  split
  · rename_i content hentry
    exact absurd hentry (hfile content)
  · rfl

/-- Where there is no variable to be lost, an entry without variables can be put. -/
theorem put_variableFile {path : List String} {entry : Entry}
    (hpath : path = variableFilePath → h.variableFile = [])
    (hentry : ∀ content, entry ≠ .file content) :
    (h.put path entry).variableFile = h.variableFile := by
  by_cases heq : path = variableFilePath
  · rw [hpath heq]
    apply variableFile_of_ne_file
    intro content hfile
    rw [heq, entry?_put_self (by decide)] at hfile
    exact hentry content (Option.some.inj hfile)
  · unfold variableFile
    rw [entry?_put_ne (Ne.symm heq)]

theorem writeFile_variableFile {path : List String} (hpath : path ≠ variableFilePath)
    (content : Bytes) : (h.put path (.file content)).variableFile = h.variableFile := by
  unfold variableFile
  rw [entry?_put_ne hpath.symm]

theorem makeDirectory_keeps (h : Host) (path : List String) :
    (h.makeDirectory path).environment = h.environment ∧
      (h.makeDirectory path).variableFile = h.variableFile := by
  unfold makeDirectory
  generalize (List.range path.length).map (fun n => path.take (n + 1)) = paths
  induction paths generalizing h with
  | nil => exact ⟨rfl, rfl⟩
  | cons path paths ih =>
    rw [List.foldl_cons]
    split
    · exact ih h
    · rename_i hmissing
      obtain ⟨henvironment, hvariables⟩ := ih (h.put path .directory)
      refine ⟨henvironment, hvariables.trans (put_variableFile (fun heq => ?_) (by simp))⟩
      rw [heq] at hmissing
      exact variableFile_of_ne_file fun content hfile => hmissing (by rw [hfile]; rfl)

/-! ### Saved databases -/

@[simp] theorem save_environment (h : Host) (c : Connection) (db : Store.Database) :
    (h.save c db).environment = h.environment := by
  unfold save
  split <;> rfl

/-- A file that is opened as a database is missing, empty or a database. -/
theorem entry?_of_openFile {path : List String} {c : Connection} (hc : h.openFile path = .ok c)
    {db : Store.Database} (hdb : c.database = .ok db) :
    c.path = some path ∧
      (h.entry? path = none ∨ h.entry? path = some (.file []) ∨
        ∃ found, h.entry? path = some (.database found)) := by
  unfold openFile at hc
  split at hc
  · cases hc
  · rename_i hentry
    obtain rfl := Except.ok.inj hc
    exact ⟨rfl, .inr (.inl hentry)⟩
  · obtain rfl := Except.ok.inj hc
    cases hdb
  · rename_i found hentry
    obtain rfl := Except.ok.inj hc
    exact ⟨rfl, .inr (.inr ⟨found, hentry⟩)⟩
  · rename_i hentry
    split_ifs at hc
    obtain rfl := Except.ok.inj hc
    exact ⟨rfl, .inl hentry⟩

/-- The file of a database that has been opened holds no variables. -/
theorem variableFile_of_connect {e : Engine} {c : Connection} (hc : h.connect e = .ok c)
    {db : Store.Database} (hdb : c.database = .ok db) (hpath : c.path = some variableFilePath) :
    h.variableFile = [] := by
  unfold connect at hc
  split at hc
  · cases hc
  · split at hc
    · cases hc
      cases hpath
    · -- none of the entries that can be opened is a file with content
      obtain ⟨hopened, hentry⟩ := entry?_of_openFile hc hdb
      rw [Option.some.inj (hopened.symm.trans hpath)] at hentry
      unfold variableFile
      rcases hentry with hentry | hentry | ⟨found, hentry⟩ <;> rw [hentry]

theorem save_variableFile {e : Engine} {c : Connection} (hc : h.connect e = .ok c)
    {db : Store.Database} (hdb : c.database = .ok db) (next : Store.Database) :
    (h.save c next).variableFile = h.variableFile := by
  unfold save
  split
  · rfl
  · rename_i path hpath
    refine put_variableFile (fun heq => ?_) (by simp)
    rw [heq] at hpath
    exact variableFile_of_connect hc hdb hpath

end CardHealth.Host
