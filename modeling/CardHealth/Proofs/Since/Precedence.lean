import CardHealth.Proofs.Since.Carrier

/-!
# What a bound depends on

If the query of a request has the field of the bound, the last value of that field decides alone: it
is an integer or it is refused, and neither the rest of the query nor the header nor the body is
looked at.  If the query has no such field and no form is offered, there is no bound, whatever the
body holds.  Both are statements about two requests at once: `read_depends_on_query`.
-/

namespace CardHealth.Since

open Http Form

/-! ### The query -/

/-- The decoded fields of the query of a request. -/
def queryFields (r : Request) : List (String × String) :=
  UrlEncoded.fields (Bytes.toLatin1 r.query)

/-- The query has the field of the bound, and `v` is its last value. -/
def AsksFor (r : Request) (v : String) : Prop :=
  ∃ before after, queryFields r = before ++ (fieldName, v) :: after ∧
    ∀ field ∈ after, field.1 ≠ fieldName

/-- The query does not have the field of the bound. -/
def AsksForNone (r : Request) : Prop :=
  ∀ field ∈ queryFields r, field.1 ≠ fieldName

variable {r q : Request} {v : String}

theorem AsksFor.inQuery?_eq (h : AsksFor r v) : inQuery? r = some (.text v) := by
  obtain ⟨before, after, hfields, hafter⟩ := h
  have hlast : lastNamed? fieldName (queryFields r) = some v := by
    rw [hfields]
    exact lastNamed?_append_cons hafter before v
  show (lastNamed? fieldName (queryFields r)).map Source.text = _
  rw [hlast, Option.map_some]

theorem AsksForNone.inQuery?_eq (h : AsksForNone r) : inQuery? r = none := by
  show (lastNamed? fieldName (queryFields r)).map Source.text = _
  rw [lastNamed?_eq_none h, Option.map_none]

/-- The value decides, and nothing else of the request does. -/
theorem AsksFor.read_eq (h : AsksFor r v) : read r = (Source.text v).toInt.map some := by
  rw [read_eq_resolve, source?_of_inQuery? h.inQuery?_eq]
  rfl

theorem AsksForNone.read_eq (h : AsksForNone r) (hform : offersForm r = false) :
    read r = .ok none := by
  rw [read_eq_resolve, source?_of_not_offersForm hform, h.inQuery?_eq]
  rfl

/-! ### Values -/

/-- A text that is blank, or empty, spells no integer. -/
theorem not_denotes_of_isBlank {s : List Char} (h : ∀ c ∈ s, Text.isBlank c = true) (n : Int) :
    ¬Numeral.Denotes s n := by
  intro hn
  have htrim : Text.trim s = [] := by
    rw [Text.trim, Text.trimBy, List.dropWhile_eq_nil_iff.mpr h]
    rfl
  have hspells := Numeral.denotes_iff_spells_trim.mp hn
  rw [htrim] at hspells
  exact hspells.isBlank.1 rfl

/-- A value that spells no integer is refused. -/
theorem AsksFor.read_of_not_denotes (h : AsksFor r v) (hv : ∀ n, ¬Numeral.Denotes v.toList n) :
    read r = .error .notAnInteger := by
  rw [h.read_eq, toInt_text_of_not_denotes hv]
  rfl

theorem AsksFor.read_of_denotes (h : AsksFor r v) {n : Int} (hv : Numeral.Denotes v.toList n) :
    read r = .ok (some n) := by
  rw [h.read_eq, toInt_text_eq_ok_iff.mpr hv]
  rfl

/-! ### Two requests -/

/-- **What a bound depends on**.  Two requests that ask for the same value get the same outcome,
whatever else they hold.  It is the integer that the value spells, or the value is refused; a blank
one is, and no form is ever read.  Two requests that ask for none and offer no form have no
bound. -/
theorem read_depends_on_query (r q : Request) :
    (∀ v, AsksFor r v → AsksFor q v →
      read r = read q ∧
        ((∃ n, Numeral.Denotes v.toList n ∧ read r = .ok (some n)) ∨
          (∀ n, ¬Numeral.Denotes v.toList n) ∧ read r = .error .notAnInteger ∧
            ∀ (m : Monitor) (connection : Connection), m.serveRecords r connection =
              (.ofResponse r (.detail 422 "since must be an integer timestamp"), m)) ∧
        ((∀ c ∈ v.toList, Text.isBlank c = true) → read r = .error .notAnInteger)) ∧
      (AsksForNone r → AsksForNone q → offersForm r = false → offersForm q = false →
        read r = .ok none ∧ read q = .ok none) := by
  refine ⟨fun v hr hq => ⟨?_, ?_, fun hblank => ?_⟩, fun hr hq hrform hqform => ?_⟩
  · rw [hr.read_eq, hq.read_eq]
  · -- the form is not read even if the value is refused
    by_cases hv : ∃ n, Numeral.Denotes v.toList n
    · obtain ⟨n, hn⟩ := hv
      exact .inl ⟨n, hn, hr.read_of_denotes hn⟩
    · have hnone := not_exists.mp hv
      have hread := hr.read_of_not_denotes hnone
      refine .inr ⟨hnone, hread, fun m connection => ?_⟩
      rw [Monitor.serveRecords, hread]
      rfl
  · exact hr.read_of_not_denotes (not_denotes_of_isBlank hblank)
  · exact ⟨hr.read_eq hrform, hq.read_eq hqform⟩

/-- A request whose query asks for a blank value after another one, and whose multipart form has no
boundary. -/
def blankAfterFive : Request :=
  { sending multipartType (Bytes.ofLatin1 "since=7") with
    query := Bytes.ofLatin1 "since=5&%73ince=+&a" }

theorem read_depends_on_query_small :
    read blankAfterFive = .error .notAnInteger ∧
      read (querying (Bytes.ofLatin1 "b=1&since=%20")) = read blankAfterFive ∧
      read (sending "text/plain" (Bytes.ofLatin1 "since=7")) = .ok none := by
  have hposted : AsksFor blankAfterFive " " :=
    ⟨[("since", "5")], [("a", "")], by decide +kernel, by decide⟩
  have hasked : AsksFor (querying (Bytes.ofLatin1 "b=1&since=%20")) " " :=
    ⟨[("b", "1")], [], by decide +kernel, by simp⟩
  obtain ⟨hsame, -, hblank⟩ := (read_depends_on_query _ _).1 " " hasked hposted
  have hnone : AsksForNone (sending "text/plain" (Bytes.ofLatin1 "since=7")) := by
    intro field hfield
    cases hfield
  have hplain : offersForm (sending "text/plain" (Bytes.ofLatin1 "since=7")) = false := by decide
  refine ⟨?_, hsame, ((read_depends_on_query _ _).2 hnone hnone hplain hplain).1⟩
  rw [← hsame]
  exact hblank (List.all_eq_true.mp (by decide))

end CardHealth.Since
