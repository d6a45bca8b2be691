import CardHealth.Monitor.Service
import CardHealth.Proofs.Form.Multipart
import CardHealth.Proofs.Form.UrlEncoded
import CardHealth.Proofs.Numeral.Grammar
import CardHealth.Proofs.Since.Source

/-!
# One text, three carriers

A text may come as a field of the query, of a URL-encoded form or of a multipart form; `Carries`
says how each of them is written.  Whichever it is, the text alone decides (`read_of_carries`): it
is either a spelling of an integer, and that integer is the bound, or it is refused.
-/

namespace CardHealth.Since

open Http Form

/-! ### Boundaries -/

/-- Whether a character may stand in a boundary. -/
def isBoundaryChar (c : Char) : Bool :=
  c.isAlphanum || ['\'', '(', ')', '+', '_', ',', '-', '.', '/', ':', '=', '?', ' '].contains c

theorem toNat_of_isBoundaryChar {c : Char} (h : isBoundaryChar c = true) :
    32 ≤ c.toNat ∧ c.toNat < 127 := by
  rcases Bool.or_eq_true_iff.mp h with hletter | hmark
  · have hval : c.val.toNat = c.toNat := rfl
    delta Char.isAlphanum Char.isAlpha Char.isUpper Char.isLower Char.isDigit at hletter
    simp only [Bool.or_eq_true, Bool.and_eq_true, decide_eq_true_eq, ge_iff_le,
      UInt32.le_iff_toNat_le, Char.reduceVal, UInt32.reduceToNat, hval] at hletter
    omega
  · simp only [List.contains_eq_mem, List.mem_cons, List.not_mem_nil, or_false,
      decide_eq_true_eq] at hmark
    rcases hmark with
      rfl | rfl | rfl | rfl | rfl | rfl | rfl | rfl | rfl | rfl | rfl | rfl | rfl <;> decide

/-- Of the characters of boundaries, only the blank is stripped. -/
theorem isSpacing_of_isBoundaryChar {c : Char} (h : isBoundaryChar c = true) (hblank : c ≠ ' ') :
    Text.isSpacing c = false := by
  obtain ⟨hlow, hhigh⟩ := toNat_of_isBoundaryChar h
  have hne : c.toNat ≠ 32 := fun heq => hblank (by rw [← Char.ofNat_toNat c, heq])
  simp only [Text.isSpacing, Text.isBlank, Bool.or_eq_false_iff, Bool.and_eq_false_iff,
    decide_eq_false_iff_not, beq_eq_false_iff_ne]
  omega

/-- A boundary as it is written in a content type. -/
def boundaryText (quoted : Bool) (boundary : String) : String :=
  if quoted then "\"" ++ boundary ++ "\"" else boundary

/-- The content type of a multipart form with a boundary. -/
def formDataType (quoted : Bool) (boundary : String) : String :=
  multipartType ++ ";" ++ (" boundary=" ++ boundaryText quoted boundary)

section Boundary

variable {boundary : String} (hchars : ∀ c ∈ boundary.toList, isBoundaryChar c = true)

include hchars

theorem not_mem_boundary {c : Char} (hc : isBoundaryChar c = false) : c ∉ boundary.toList := by
  intro hmem
  rw [hchars c hmem] at hc
  cases hc

theorem cr_not_mem_ofLatin1_boundary : Multipart.cr ∉ Bytes.ofLatin1 boundary := by
  intro hmem
  obtain ⟨c, hc, hcr⟩ := List.mem_map.mp hmem
  obtain ⟨hlow, hhigh⟩ := toNat_of_isBoundaryChar (hchars c hc)
  have hbyte : (UInt8.ofNat c.toNat).toNat = c.toNat := UInt8.toNat_ofNat_of_lt' (by
    show c.toNat < 256
    omega)
  rw [hcr] at hbyte
  have hthirteen : Multipart.cr.toNat = 13 := rfl
  omega

/-- A boundary is read as it was written, between quotation marks or, without blanks, as it is. -/
theorem unquote_strip_boundaryText {quoted : Bool}
    (hbare : quoted = false → ' ' ∉ boundary.toList) :
    HeaderValue.unquote (HeaderValue.strip (boundaryText quoted boundary).toList)
      = boundary.toList := by
  cases quoted with
  | true =>
    have htext : (boundaryText true boundary).toList = '"' :: boundary.toList ++ ['"'] := by
      simp [boundaryText]
    rw [htext]
    exact HeaderValue.unquote_strip_quoted (not_mem_boundary hchars (by decide))
  | false =>
    refine HeaderValue.unquote_strip_bare (fun c hc => ?_) (not_mem_boundary hchars (by decide))
      (not_mem_boundary hchars (by decide))
    exact isSpacing_of_isBoundaryChar (hchars c hc) fun heq => hbare rfl (heq ▸ hc)

theorem readParameters_boundary {quoted : Bool} (hbare : quoted = false → ' ' ∉ boundary.toList) :
    HeaderValue.readParameters (" boundary=" ++ boundaryText quoted boundary).toList
      = .ok [("boundary", boundary)] := by
  have htext : (" boundary=" ++ boundaryText quoted boundary).toList
      = " boundary".toList ++ '=' :: (boundaryText quoted boundary).toList := by
    rw [String.toList_append]
    rfl
  have hmark : ';' ∉ " boundary".toList ++ '=' :: (boundaryText quoted boundary).toList := by
    have hboundary : ';' ∉ boundary.toList := not_mem_boundary hchars (by decide)
    cases quoted <;> simp [boundaryText, hboundary]
  rw [htext, HeaderValue.readParameters_singleton hmark (by decide) (by decide),
    unquote_strip_boundaryText hchars hbare, String.ofList_toList]
  rfl

end Boundary

/-! ### Carriers -/

/-- The field of a multipart form that holds the bound. -/
def boundField (v : String) : Multipart.Field :=
  ⟨fieldName, Text.encodeUtf8 v⟩

/-- A request that carries a text as its bound, in one of three ways.  Other fields may stand around
the one that counts. -/
inductive Carries (v : String) (r : Request) : Prop where
  | query (field : UrlEncoded.Holds fieldName v (Bytes.toLatin1 r.query))
  | urlEncoded (unasked : inQuery? r = none)
      (contentType : r.header? "content-type" = some urlEncodedType)
      (field : UrlEncoded.Holds fieldName v (Bytes.toLatin1 r.body))
      (few : (UrlEncoded.fields (Bytes.toLatin1 r.body)).length ≤ maxFields)
  | multipart {boundary : String} {quoted : Bool} {before after : List Multipart.Field}
      (unasked : inQuery? r = none)
      (chars : ∀ c ∈ boundary.toList, isBoundaryChar c = true)
      (bare : quoted = false → ' ' ∉ boundary.toList)
      (contentType : r.header? "content-type" = some (formDataType quoted boundary))
      (body : r.body =
        Multipart.write (Bytes.ofLatin1 boundary) (before ++ boundField v :: after))
      (fits : ∀ f ∈ before ++ boundField v :: after, f.Fits (Bytes.ofLatin1 boundary))
      (few : (before ++ boundField v :: after).length ≤ maxFields)
      (last : ∀ f ∈ after, f.name ≠ fieldName)

variable {v : String} {r : Request}

theorem inQuery?_of_holds (h : UrlEncoded.Holds fieldName v (Bytes.toLatin1 r.query)) :
    inQuery? r = some (.text v) := by
  rw [inQuery?, h.lastNamed?_fields, Option.map_some]

theorem inUrlEncoded?_of_holds {body : Bytes}
    (h : UrlEncoded.Holds fieldName v (Bytes.toLatin1 body))
    (hfew : (UrlEncoded.fields (Bytes.toLatin1 body)).length ≤ maxFields) :
    inUrlEncoded? body = .ok (some (.text v)) := by
  rw [inUrlEncoded?, UrlEncoded.bodyFields_eq_fields, if_neg (Nat.not_lt.mpr hfew),
    h.lastNamed?_fields, Option.map_some]

/-- The fields of a written form are read, and the bound is the last one with its name. -/
theorem inMultipart?_write {boundary : String} {before after : List Multipart.Field}
    (hchars : ∀ c ∈ boundary.toList, isBoundaryChar c = true)
    (hfits : ∀ f ∈ before ++ boundField v :: after, f.Fits (Bytes.ofLatin1 boundary))
    (hfew : (before ++ boundField v :: after).length ≤ maxFields)
    (hlast : ∀ f ∈ after, f.name ≠ fieldName) :
    inMultipart? ⟨multipartType, [("boundary", boundary)]⟩
      (Multipart.write (Bytes.ofLatin1 boundary) (before ++ boundField v :: after)) =
      .ok (some (.text v)) := by
  have hcharset : Text.Charset.named "utf-8" = .utf8 := by decide
  have hread : Multipart.read ⟨multipartType, [("boundary", boundary)]⟩
      (Multipart.write (Bytes.ofLatin1 boundary) (before ++ boundField v :: after)) =
      .ok ((before ++ boundField v :: after).map Multipart.Field.toPart) := by
    rw [← Multipart.readBody_write (cr_not_mem_ofLatin1_boundary hchars) _ hfits hfew, ← hcharset]
    rfl
  have hfound : lastNamed? fieldName
      (((before ++ boundField v :: after).map Multipart.Field.toPart).map fun part =>
        (part.name, part.text)) = some (some v) := by
    have hpart : ((boundField v).toPart.name, (boundField v).toPart.text)
        = (fieldName, some v) := by
      rw [Multipart.Field.toPart, Multipart.makePart, boundField]
      simp [Multipart.decode_encodeUtf8]
    rw [List.map_append, List.map_append, List.map_cons, List.map_cons, hpart]
    refine lastNamed?_append_cons (fun entry hentry => ?_) _ _
    obtain ⟨part, hpart, rfl⟩ := List.mem_map.mp hentry
    obtain ⟨f, hf, rfl⟩ := List.mem_map.mp hpart
    exact hlast f hf
  rw [inMultipart?, hread]
  dsimp only
  rw [hfound]
  rfl

/-- **The text that is carried is found**, whichever way it came. -/
theorem source?_of_carries (h : Carries v r) : source? r = .ok (some (.text v)) := by
  cases h with
  | query field => exact source?_of_inQuery? (inQuery?_of_holds field)
  | urlEncoded unasked contentType field few =>
    rw [source?_of_urlEncoded unasked contentType, inUrlEncoded?_of_holds field few]
  | multipart unasked chars bare contentType body fits few last =>
    rw [source?_of_multipart unasked contentType (readParameters_boundary chars bare), body,
      inMultipart?_write chars fits few last]

/-! ### Outcomes -/

theorem toInt_text_eq_ok_iff {n : Int} :
    (Source.text v).toInt = .ok n ↔ Numeral.Denotes v.toList n := by
  rw [← Numeral.read_eq_ok_iff, Source.toInt]
  cases Numeral.read v.toList <;> simp

theorem toInt_text_of_not_denotes (h : ∀ n, ¬Numeral.Denotes v.toList n) :
    (Source.text v).toInt = .error .notAnInteger := by
  rw [Source.toInt]
  cases hread : Numeral.read v.toList with
  | ok n => exact absurd (Numeral.read_eq_ok_iff.mp hread) (h n)
  | error e => rfl

theorem read_eq_of_carries (h : Carries v r) : read r = (Source.text v).toInt.map some := by
  rw [read_eq_resolve, source?_of_carries h]
  rfl

/-- **The text decides**.  The bound is `n` exactly if the text that is carried spells `n`; a text
that spells no integer is refused with the same answer, and the way in which the text came makes no
difference.  The decimal text of every integer that is not too long spells it. -/
theorem read_of_carries (v : String) (r : Request) (h : Carries v r) :
    (∀ n, read r = .ok (some n) ↔ Numeral.Denotes v.toList n) ∧
      ((∀ n, ¬Numeral.Denotes v.toList n) →
        read r = .error .notAnInteger ∧
          ∀ (m : Monitor) (connection : Connection), m.serveRecords r connection =
            (.ofResponse r (.detail 422 "since must be an integer timestamp"), m)) ∧
      (∀ q, Carries v q → read q = read r) ∧
      ∀ n : Int, n.natAbs < 10 ^ Numeral.maxDigits → v = Numeral.render n →
        read r = .ok (some n) := by
  have hspelled : ∀ n, read r = .ok (some n) ↔ Numeral.Denotes v.toList n := by
    intro n
    rw [read_eq_of_carries h, ← toInt_text_eq_ok_iff]
    cases (Source.text v).toInt <;> simp [Except.map]
  refine ⟨hspelled, fun hnone => ?_, fun q hq => ?_, fun n hn hv => ?_⟩
  · have hread : read r = .error .notAnInteger := by
      rw [read_eq_of_carries h, toInt_text_of_not_denotes hnone]
      rfl
    refine ⟨hread, fun m connection => ?_⟩
    rw [Monitor.serveRecords, hread]
    rfl
  · rw [read_eq_of_carries hq, read_eq_of_carries h]
  · exact (hspelled n).mpr (hv ▸ Numeral.denotes_render hn)

/-- A spelling of -12 with blanks, an underscore and a digit of another script. -/
def spelling : String := " -1_\u0662\n"

/-- How a form writes a field with this spelling. -/
def spelledField : Bytes := Bytes.ofLatin1 "since=%20-1_%D9%A2%0A"

/-- A text that spells no integer. -/
def misspelling : String := "1__2"

/-- A field with this bound, all of it percent-encoded but for the letters and digits. -/
def escapedField (v : String) : List Char :=
  (Text.percentEncode (fun _ => false) fieldName).toList ++
    '=' :: (Text.percentEncode (fun _ => false) v).toList

theorem holds_escapedField (v : String) : UrlEncoded.Holds fieldName v (escapedField v) :=
  .field (Text.escapes_percentEncode (fun _ _ => rfl) fieldName) (by decide)
    (Text.escapes_percentEncode (fun _ _ => rfl) v)

/-- The only field of a multipart form with the boundary `x y`. -/
def multiparting (v : String) : Request :=
  sending (formDataType true "x y") (Multipart.write (Bytes.ofLatin1 "x y") [boundField v])

theorem read_of_carries_small :
    read (querying (Bytes.ofLatin1 "a&since=%20-1_%D9%A2%0A&")) = .ok (some (-12)) ∧
      read (sending urlEncodedType spelledField) = .ok (some (-12)) ∧
      read (multiparting spelling) = .ok (some (-12)) ∧
      read (querying (Bytes.ofLatin1 "since=1__2")) = .error .notAnInteger := by
  have hspelled : Numeral.Denotes spelling.toList (-12) :=
    Numeral.read_eq_ok_iff.mp (by decide)
  have hmisspelled : ∀ n, ¬Numeral.Denotes misspelling.toList n := by
    intro n hn
    have hmalformed : Numeral.read misspelling.toList = .error .malformed := by decide
    rw [← Numeral.read_eq_ok_iff, hmalformed] at hn
    cases hn
  have hquery : Carries spelling (querying (Bytes.ofLatin1 "a&since=%20-1_%D9%A2%0A&")) := by
    have htext : Bytes.toLatin1 (querying (Bytes.ofLatin1 "a&since=%20-1_%D9%A2%0A&")).query
        = ['a'] ++ '&' :: (escapedField spelling ++ '&' :: []) := by decide
    exact .query (htext ▸ .after _ (.before (holds_escapedField spelling) (by decide)))
  have hform : Carries spelling (sending urlEncodedType spelledField) := by
    have htext : Bytes.toLatin1 (sending urlEncodedType spelledField).body
        = escapedField spelling := by decide
    exact .urlEncoded rfl rfl (htext ▸ holds_escapedField spelling) (by decide)
  have hmultipart : Carries spelling (multiparting spelling) := by
    have hname : Multipart.IsQuotable fieldName := by
      simp only [Multipart.IsQuotable, List.forall_mem_cons]
      exact ⟨by decide, by decide, by decide, by decide, by simp⟩
    have hchars : ∀ c ∈ "x y".toList, isBoundaryChar c = true := List.all_eq_true.mp (by decide)
    have hfits : (boundField spelling).Fits (Bytes.ofLatin1 "x y") :=
      ⟨hname, by decide, by decide +kernel⟩
    exact @Carries.multipart _ _ "x y" true [] [] rfl hchars (by decide) rfl rfl
      (by simpa using hfits) (by decide) (by simp)
  have hmistaken : Carries misspelling (querying (Bytes.ofLatin1 "since=1__2")) := by
    have htext : Bytes.toLatin1 (querying (Bytes.ofLatin1 "since=1__2")).query
        = escapedField misspelling := by decide
    exact .query (htext ▸ holds_escapedField misspelling)
  exact ⟨((read_of_carries _ _ hquery).1 _).mpr hspelled,
    ((read_of_carries _ _ hform).1 _).mpr hspelled,
    ((read_of_carries _ _ hmultipart).1 _).mpr hspelled,
    ((read_of_carries _ _ hmistaken).2.1 hmisspelled).1⟩

end CardHealth.Since
