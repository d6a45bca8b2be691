import CardHealth.Entries
import Mathlib.Data.List.Basic

/-!
# The last entry with a name
-/

namespace CardHealth

/-- Later entries come before earlier ones. -/
theorem lastNamed?_append {κ α : Type} [BEq κ] (name : κ) (earlier later : List (κ × α)) :
    lastNamed? name (earlier ++ later) = (lastNamed? name later).or (lastNamed? name earlier) := by
  rw [lastNamed?, List.reverse_append, List.find?_append]
  cases hlater : later.reverse.find? fun entry => entry.1 == name with
  | none => simp [lastNamed?, hlater]
  | some entry => simp [lastNamed?, hlater]

variable {κ α : Type} [BEq κ] [LawfulBEq κ] {name : κ}

theorem mem_of_lastNamed? {entries : List (κ × α)} {a : α}
    (h : lastNamed? name entries = some a) : (name, a) ∈ entries := by
  unfold lastNamed? at h
  obtain ⟨entry, hfind, rfl⟩ := Option.map_eq_some_iff.mp h
  have hname : entry.1 = name := by simpa using List.find?_some hfind
  rw [← hname]
  exact List.mem_reverse.mp (List.mem_of_find?_eq_some hfind)

theorem lastNamed?_eq_none {entries : List (κ × α)} (h : ∀ entry ∈ entries, entry.1 ≠ name) :
    lastNamed? name entries = none := by
  have hnone : (entries.reverse.find? fun entry => entry.1 == name) = none :=
    List.find?_eq_none.mpr fun entry hentry => by simpa using h entry (List.mem_reverse.mp hentry)
  rw [lastNamed?, hnone, Option.map_none]

theorem lastNamed?_eq_none_iff {entries : List (κ × α)} :
    lastNamed? name entries = none ↔ ∀ entry ∈ entries, entry.1 ≠ name := by
  refine ⟨fun h entry hentry hname => ?_, lastNamed?_eq_none⟩
  have hnone := List.find?_eq_none.mp (Option.map_eq_none_iff.mp h) entry
    (List.mem_reverse.mpr hentry)
  exact hnone (by simpa using hname)

/-- Where there is an entry with the name, one of them counts. -/
theorem exists_lastNamed?_of_mem {entries : List (κ × α)} {entry : κ × α} (h : entry ∈ entries) :
    ∃ a, lastNamed? entry.1 entries = some a := by
  cases hlast : lastNamed? entry.1 entries with
  | some a => exact ⟨a, rfl⟩
  | none => exact absurd rfl (lastNamed?_eq_none_iff.mp hlast entry h)

theorem lastNamed?_singleton (name : κ) (a : α) : lastNamed? name [(name, a)] = some a := by
  simp [lastNamed?]

/-- An entry counts if none after it has its name. -/
theorem lastNamed?_append_cons {later : List (κ × α)} (h : ∀ entry ∈ later, entry.1 ≠ name)
    (earlier : List (κ × α)) (a : α) :
    lastNamed? name (earlier ++ (name, a) :: later) = some a := by
  rw [← List.singleton_append, lastNamed?_append, lastNamed?_append, lastNamed?_eq_none h,
    lastNamed?_singleton]
  rfl

/-- The entry that counts is the last one with the name. -/
theorem lastNamed?_eq_some_iff {entries : List (κ × α)} {a : α} :
    lastNamed? name entries = some a ↔
      ∃ earlier later, entries = earlier ++ (name, a) :: later ∧
        ∀ entry ∈ later, entry.1 ≠ name := by
  constructor
  · intro h
    induction entries with
    | nil => cases h
    | cons entry entries ih =>
      rw [← List.singleton_append, lastNamed?_append] at h
      cases hlast : lastNamed? name entries with
      | some b =>
        rw [hlast, Option.some_or] at h
        obtain ⟨earlier, later, rfl, hlater⟩ := ih (hlast.trans h)
        exact ⟨entry :: earlier, later, rfl, hlater⟩
      | none =>
        rw [hlast, Option.none_or] at h
        obtain rfl := List.mem_singleton.mp (mem_of_lastNamed? h)
        exact ⟨[], entries, rfl, lastNamed?_eq_none_iff.mp hlast⟩
  · rintro ⟨earlier, later, rfl, hlater⟩
    exact lastNamed?_append_cons hlater earlier a

/-- Where names are distinct, every entry counts. -/
theorem lastNamed?_of_nodup {entries : List (κ × α)} (hnodup : (entries.map (·.1)).Nodup) {a : α}
    (h : (name, a) ∈ entries) : lastNamed? name entries = some a := by
  obtain ⟨earlier, later, rfl⟩ := List.append_of_mem h
  refine lastNamed?_append_cons (fun entry hentry hname => ?_) earlier a
  rw [List.map_append, List.map_cons, List.nodup_append] at hnodup
  exact (List.nodup_cons.mp hnodup.2.1).1 (List.mem_map.mpr ⟨entry, hentry, hname⟩)

/-- Entries of other names do not count. -/
theorem lastNamed?_filter_ne [DecidableEq κ] {other : κ} (h : name ≠ other)
    (entries : List (κ × α)) :
    lastNamed? name (entries.filter fun entry => entry.1 != other) = lastNamed? name entries := by
  unfold lastNamed?
  rw [← List.filter_reverse, List.find?_filter]
  congr 2
  funext entry
  by_cases hname : entry.1 = name
  · simp [hname, h]
  · simp [hname]

end CardHealth
