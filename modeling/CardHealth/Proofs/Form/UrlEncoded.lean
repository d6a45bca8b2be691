import CardHealth.Form.UrlEncoded
import CardHealth.Proofs.Bytes
import CardHealth.Proofs.Entries
import CardHealth.Proofs.Text.Mark
import CardHealth.Proofs.Text.Percent
import Mathlib.Data.List.Basic

/-!
# One language of URL-encoded fields

The splitter of queries and the reader of bodies find the same fields (`bodyFields_eq_fields`).
What the reader holds is the text of the field that it is in (`Reader.text`): a byte adds to that
text or ends it, and fields are divided at the marks that end them (`fields_append_amp`).

`Holds` says how a field with a name and a value may be written, and `Holds.lastNamed?_fields` that
its value is found.
-/

namespace CardHealth.Form.UrlEncoded

/-! ### Fields of a text -/

theorem splitField_append {name : List Char} (h : '=' ∉ name) (value : List Char) :
    splitField (name ++ '=' :: value) = (name, value) := by
  rw [splitField, Text.takeWhile_bne_append h, Text.dropWhile_bne_append h, List.drop_one,
    List.tail_cons]

theorem splitField_of_not_mem {name : List Char} (h : '=' ∉ name) :
    splitField name = (name, []) := by
  rw [splitField, Text.takeWhile_bne_of_not_mem h, Text.dropWhile_bne_of_not_mem h, List.drop_nil]

/-- The fields on both sides of a mark are those of the whole. -/
theorem fields_append_amp (s t : List Char) : fields (s ++ '&' :: t) = fields s ++ fields t := by
  rw [fields, List.splitOnP_append_cons s t (by rfl), List.filter_append, List.map_append]
  rfl

/-- A text without marks is one field. -/
theorem fields_of_not_mem {s : List Char} (hne : s ≠ []) (h : '&' ∉ s) :
    fields s = [decodeField s] := by
  rw [fields, Text.splitOnP_beq_of_not_mem h, List.filter_cons_of_pos (by simpa using hne),
    List.filter_nil, List.map_singleton]

/-! ### The reader -/

theorem amp_mem_toLatin1 {b : Bytes} : '&' ∈ Bytes.toLatin1 b ↔ ampersand ∈ b := by
  rw [← Bytes.mem_toLatin1]
  rfl

theorem sign_mem_toLatin1 {b : Bytes} : '=' ∈ Bytes.toLatin1 b ↔ equalsSign ∈ b := by
  rw [← Bytes.mem_toLatin1]
  rfl

namespace Reader

/-- What was read of the field. -/
def text : Reader → Bytes
  | .between => []
  | .inName name => name.reverse
  | .inValue name value => name.reverse ++ equalsSign :: value.reverse

/-- What a reader holds after any bytes: no mark between fields, a name that has a byte while it is
being read, and no equals sign in a name. -/
def WellFormed : Reader → Prop
  | .between => True
  | .inName name => name ≠ [] ∧ equalsSign ∉ name ∧ ampersand ∉ name
  | .inValue name value => equalsSign ∉ name ∧ ampersand ∉ name ∧ ampersand ∉ value

variable {reader : Reader}

theorem text_step (b : UInt8) (reader : Reader) : (reader.step b).text = reader.text ++ [b] := by
  cases reader with
  | between =>
    rw [step]
    split_ifs with hb
    · simp [text, beq_iff_eq.mp hb]
    · rfl
  | inName name =>
    rw [step]
    split_ifs with hb
    · simp [text, beq_iff_eq.mp hb]
    · simp [text]
  | inValue name value => simp [step, text]

theorem not_mem_cons_of_beq {a b : UInt8} {s : Bytes} (hb : ¬(b == a) = true) (h : a ∉ s) :
    a ∉ b :: s := by
  rw [List.mem_cons, not_or]
  exact ⟨fun heq => hb (beq_iff_eq.mpr heq.symm), h⟩

theorem WellFormed.step (h : reader.WellFormed) {b : UInt8} (hb : ¬(b == ampersand) = true) :
    (reader.step b).WellFormed := by
  cases reader with
  | between =>
    rw [Reader.step]
    split_ifs with hsign
    · exact ⟨List.not_mem_nil, List.not_mem_nil, List.not_mem_nil⟩
    · exact ⟨List.cons_ne_nil _ _, not_mem_cons_of_beq hsign List.not_mem_nil,
        not_mem_cons_of_beq hb List.not_mem_nil⟩
  | inName name =>
    rw [Reader.step]
    split_ifs with hsign
    · exact ⟨h.2.1, h.2.2, List.not_mem_nil⟩
    · exact ⟨List.cons_ne_nil _ _, not_mem_cons_of_beq hsign h.2.1, not_mem_cons_of_beq hb h.2.2⟩
  | inValue name value => exact ⟨h.1, h.2.1, not_mem_cons_of_beq hb h.2.2⟩

/-- The decoded fields of a body. -/
abbrev decoded (found : List (Bytes × Bytes)) : List (String × String) :=
  found.map fun (name, value) => (decodeBytes name, decodeBytes value)

theorem decoded_field? (h : reader.WellFormed) :
    decoded reader.field?.toList = fields (Bytes.toLatin1 reader.text) := by
  cases reader with
  | between => rfl
  | inName name =>
    obtain ⟨hne, hsign, hmark⟩ := h
    rw [text, fields_of_not_mem (by simpa [Bytes.toLatin1] using hne)
        (by simpa [amp_mem_toLatin1] using hmark), decodeField,
      splitField_of_not_mem (by simpa [sign_mem_toLatin1] using hsign)]
    rfl
  | inValue name value =>
    obtain ⟨hsign, hmark, hvalue⟩ := h
    have htext : Bytes.toLatin1 (text (.inValue name value))
        = Bytes.toLatin1 name.reverse ++ '=' :: Bytes.toLatin1 value.reverse := by
      rw [text, Bytes.toLatin1_append]
      rfl
    rw [htext, fields_of_not_mem (by simp)
        (by simpa [amp_mem_toLatin1] using ⟨hmark, hvalue⟩), decodeField,
      splitField_append (by simpa [sign_mem_toLatin1] using hsign)]
    rfl

/-- **A reader finds the fields of what it holds and of what is left**. -/
theorem decoded_read (reader : Reader) (h : reader.WellFormed) (body : Bytes) :
    decoded (reader.read body) = fields (Bytes.toLatin1 (reader.text ++ body)) := by
  -- A mark ends the field that is held; any other byte is added to its text.
  induction body generalizing reader with
  | nil => rw [Reader.read, List.append_nil, decoded_field? h]
  | cons b body ih =>
    rw [Reader.read]
    split_ifs with hb
    · have hmark : Bytes.toLatin1 (reader.text ++ b :: body)
          = Bytes.toLatin1 reader.text ++ '&' :: Bytes.toLatin1 body := by
        rw [beq_iff_eq.mp hb, Bytes.toLatin1_append]
        rfl
      have hrest : decoded (between.read body) = fields (Bytes.toLatin1 body) := ih .between trivial
      rw [hmark, fields_append_amp, ← hrest, ← decoded_field? h, decoded, List.map_append]
    · rw [ih _ (h.step hb), text_step, List.append_assoc, List.singleton_append]

end Reader

/-- **Bodies and queries hold the same fields**. -/
theorem bodyFields_eq_fields (body : Bytes) : bodyFields body = fields (Bytes.toLatin1 body) :=
  Reader.decoded_read .between trivial body

/-! ### Written fields -/

/-- A text whose last field with a name has a value.  Both are percent-encoded, no matter how, and
fields may stand before and after. -/
inductive Holds (name value : String) : List Char → Prop where
  | field {n v : List Char} (escapedName : Text.Escapes n (Text.encodeUtf8 name))
      (noSign : '=' ∉ n) (escapedValue : Text.Escapes v (Text.encodeUtf8 value)) :
      Holds name value (n ++ '=' :: v)
  | after {s : List Char} (before : List Char) (rest : Holds name value s) :
      Holds name value (before ++ '&' :: s)
  | before {s after : List Char} (rest : Holds name value s)
      (others : ∀ field ∈ fields after, field.1 ≠ name) : Holds name value (s ++ '&' :: after)

/-- **The value of a written field is found**. -/
theorem Holds.lastNamed?_fields {name value : String} {s : List Char} (h : Holds name value s) :
    lastNamed? name (fields s) = some value := by
  induction h with
  | @field n v escapedName noSign escapedValue =>
    have hmark : '&' ∉ n ++ '=' :: v := by
      have hn : '&' ∉ n := fun hmem => escapedName.ne_amp _ hmem rfl
      have hv : '&' ∉ v := fun hmem => escapedValue.ne_amp _ hmem rfl
      simp [hn, hv]
    have hfield : decodeField (n ++ '=' :: v) = (name, value) := by
      rw [decodeField, splitField_append noSign]
      exact Prod.ext escapedName.ofList_plusDecode escapedValue.ofList_plusDecode
    rw [fields_of_not_mem (by simp) hmark, hfield, lastNamed?_singleton]
  | after before rest ih => rw [fields_append_amp, lastNamed?_append, ih, Option.some_or]
  | before rest others ih =>
    rw [fields_append_amp, lastNamed?_append, lastNamed?_eq_none others, ih, Option.none_or]

end CardHealth.Form.UrlEncoded
