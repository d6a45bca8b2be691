import CardHealth.Form.Multipart
import CardHealth.Proofs.Bytes
import CardHealth.Proofs.Form.HeaderValue
import CardHealth.Proofs.Text.Utf8

/-!
# Reading a form that was written

`write` lays out a form of text fields with a boundary, and `readBody_write` says that the reader
finds the fields again.  The data of a field end where they were meant to end, as no delimiter
begins within them: its first byte is a carriage return, and it has no other one
(`not_prefix_within`).
-/

namespace CardHealth.Form.Multipart

/-! ### Data -/

/-- What stands before a part that is not the first one, and at the end of the last one. -/
def delimiterOf (boundary : Bytes) : Bytes :=
  cr :: lf :: hyphen :: hyphen :: boundary

/-- A mark that data do not hold does not begin in them either, if what follows the data is the mark
again and the first byte of the mark comes only once in it. -/
theorem not_prefix_within {first : UInt8} {mark data after : Bytes} (hfirst : first ∉ mark)
    (hdata : ¬(first :: mark) <:+: data) (hne : data ≠ []) :
    ¬(first :: mark) <+: data ++ first :: after := by
  intro hprefix
  obtain ⟨tail, htail⟩ := hprefix
  rcases List.append_eq_append_iff.mp htail with ⟨between, hbetween, -⟩ | ⟨between, hbetween, hrest⟩
  · exact hdata ⟨[], between, by simpa using hbetween.symm⟩
  · -- The mark would have to go on with the second occurrence of its first member.
    cases data with
    | nil => exact hne rfl
    | cons b data =>
      cases between with
      | nil => exact hdata ⟨[], [], by simpa using hbetween⟩
      | cons c between =>
        obtain ⟨rfl, -⟩ := List.cons.inj hrest
        obtain ⟨-, hmark⟩ := List.cons.inj hbetween
        exact hfirst (hmark ▸ List.mem_append_right _ List.mem_cons_self)

variable {boundary data after : Bytes}

theorem cr_not_mem_delimiter (h : cr ∉ boundary) : cr ∉ lf :: hyphen :: hyphen :: boundary := by
  simpa [cr, lf, hyphen] using h

/-- No delimiter begins within data without the boundary. -/
theorem isPrefixOf_delimiterOf (hcr : cr ∉ boundary) (hdata : ¬boundary <:+: data)
    (hne : data ≠ []) (after : Bytes) :
    (delimiterOf boundary).isPrefixOf (data ++ delimiterOf boundary ++ after) = false := by
  have hdelimiter : ¬delimiterOf boundary <:+: data := fun h =>
    hdata ((List.suffix_append [cr, lf, hyphen, hyphen] boundary).isInfix.trans h)
  rw [Bool.eq_false_iff, Ne, List.isPrefixOf_iff_prefix, List.append_assoc]
  exact not_prefix_within (cr_not_mem_delimiter hcr) hdelimiter hne

/-- Data are read up to the delimiter after them. -/
theorem readData_append (hcr : cr ∉ boundary) (hdata : ¬boundary <:+: data) (read : Bytes) :
    readData (delimiterOf boundary) read (data ++ delimiterOf boundary ++ after) =
      readData (delimiterOf boundary) (data.reverse ++ read) (delimiterOf boundary ++ after) := by
  -- What is left of the data does not hold the boundary either, so no byte begins a delimiter.
  induction data generalizing read with
  | nil => rfl
  | cons b data ih =>
    have hnot := isPrefixOf_delimiterOf hcr hdata (List.cons_ne_nil b data) after
    have hrest : ¬boundary <:+: data := fun h => hdata (h.trans (List.suffix_cons b data).isInfix)
    rw [List.cons_append, List.cons_append] at hnot ⊢
    rw [readData, if_neg (ne_true_of_eq_false hnot), ih hrest, List.reverse_cons, List.append_assoc]
    rfl

/-- At a delimiter, what follows it decides. -/
theorem readData_delimiterOf (read after : Bytes) :
    readData (delimiterOf boundary) read (delimiterOf boundary ++ after) =
      match after with
      | 13 :: 10 :: rest => .next read.reverse rest
      | 45 :: 45 :: _ => .last read.reverse
      | _ => readData (delimiterOf boundary) (cr :: read)
          ((delimiterOf boundary).tail ++ after) := by
  have hprefix : (delimiterOf boundary).isPrefixOf (delimiterOf boundary ++ after) = true :=
    List.isPrefixOf_iff_prefix.mpr (List.prefix_append _ _)
  unfold delimiterOf at hprefix ⊢
  rw [List.cons_append] at hprefix ⊢
  rw [readData, if_pos hprefix, ← List.cons_append, List.drop_left]
  rfl

theorem readData_next (hcr : cr ∉ boundary) (hdata : ¬boundary <:+: data) (rest : Bytes) :
    readData (delimiterOf boundary) [] (data ++ delimiterOf boundary ++ cr :: lf :: rest) =
      .next data rest := by
  rw [readData_append hcr hdata, List.append_nil, readData_delimiterOf, List.reverse_reverse]
  rfl

theorem readData_last (hcr : cr ∉ boundary) (hdata : ¬boundary <:+: data) (rest : Bytes) :
    readData (delimiterOf boundary) []
      (data ++ delimiterOf boundary ++ hyphen :: hyphen :: rest) = .last data := by
  rw [readData_append hcr hdata, List.append_nil, readData_delimiterOf, List.reverse_reverse]
  rfl

/-! ### Headers -/

theorem readHeaderValue_append (name : Bytes) {value : Bytes} (hvalue : cr ∉ value)
    (hblank : ∀ b ∈ value.head?, b ≠ 32) (rest : Bytes) :
    readHeaderValue name (32 :: value ++ cr :: lf :: rest) = .field name value rest := by
  have hskip : (32 :: value ++ cr :: lf :: rest).dropWhile (· == 32)
      = value ++ cr :: lf :: rest := by
    cases value with
    | nil => rfl
    | cons c value =>
      have hc : c ≠ 32 := hblank c rfl
      simp [hc]
  rw [readHeaderValue, hskip, Text.dropWhile_bne_append hvalue, Text.takeWhile_bne_append hvalue]
  rfl

theorem readHeaderLine_append {name value : Bytes} (hne : name ≠ [])
    (htoken : ∀ b ∈ name, isTokenByte b = true) (hvalue : cr ∉ value)
    (hblank : ∀ b ∈ value.head?, b ≠ 32) (rest : Bytes) :
    readHeaderLine (name ++ 58 :: (32 :: value ++ cr :: lf :: rest)) = .field name value rest := by
  obtain ⟨b, name, rfl⟩ := List.exists_cons_of_ne_nil hne
  have hb : isTokenByte b = true := htoken b List.mem_cons_self
  have hcr : (b == cr) = false := by
    refine Bool.eq_false_iff.mpr fun heq => ?_
    rw [beq_iff_eq.mp heq] at hb
    exact absurd hb (by decide)
  -- The name ends at the colon.
  have hcolon : ¬isTokenByte 58 = true := by decide
  have hafter : (b :: name ++ 58 :: (32 :: value ++ cr :: lf :: rest)).dropWhile isTokenByte
      = 58 :: (32 :: value ++ cr :: lf :: rest) := by
    rw [List.dropWhile_append_of_pos htoken, List.dropWhile_cons_of_neg hcolon]
  have hname : (b :: name ++ 58 :: (32 :: value ++ cr :: lf :: rest)).takeWhile isTokenByte
      = b :: name := by
    rw [List.takeWhile_append_of_pos htoken, List.takeWhile_cons_of_neg hcolon, List.append_nil]
  rw [List.cons_append] at hafter hname ⊢
  unfold readHeaderLine
  dsimp only
  rw [hcr, if_neg Bool.false_ne_true, hafter]
  dsimp only
  rw [hb, hname, if_pos (by rfl), readHeaderValue_append _ hvalue hblank]

theorem readHeaders_of_field {s name value rest : Bytes}
    (h : readHeaderLine s = .field name value rest) (disposition : Bytes) :
    readHeaders disposition s = readHeaders
      (if (Bytes.toLatin1 name).map Text.lowerAsciiChar == "content-disposition".toList then value
        else disposition) rest := by
  rw [readHeaders]
  split
  · simp_all
  · simp_all
  · simp_all
  · rename_i heq
    rw [h] at heq
    cases heq
    rfl

theorem readHeaders_blank (disposition rest : Bytes) :
    readHeaders disposition (cr :: lf :: rest) = .complete disposition rest := by
  rw [readHeaders]
  split
  · rename_i heq
    cases heq
  · rename_i heq
    cases heq
  · rename_i heq
    cases heq
    rfl
  · rename_i heq
    cases heq

/-! ### Dispositions -/

/-- The name of the header that names a field. -/
def dispositionName : Bytes :=
  Bytes.ofLatin1 "Content-Disposition"

/-- What that header says about a text field. -/
def dispositionOf (name : String) : Bytes :=
  Bytes.ofLatin1 "form-data; name=\"" ++ Text.encodeUtf8 name ++ Bytes.ofLatin1 "\""

/-- A name that can stand between quotation marks as it is. -/
def IsQuotable (name : String) : Prop :=
  ∀ c ∈ ['"', '\\', ';', '\r'], c ∉ name.toList

/-- The marks are ASCII characters, so that their bytes are not found in other characters. -/
theorem IsQuotable.not_mem {name : String} (h : IsQuotable name) {b : UInt8}
    (hb : b ∈ [34, 92, 59, cr]) : b ∉ Text.encodeUtf8 name := by
  have hmark : b.toNat < 128 ∧ Char.ofNat b.toNat ∈ ['"', '\\', ';', '\r'] := by
    simp only [List.mem_cons, List.not_mem_nil, or_false] at hb
    rcases hb with rfl | rfl | rfl | rfl <;> decide
  exact fun hmem => h _ hmark.2 (Text.ofNat_mem_of_mem_encodeUtf8 hmark.1 hmem)

theorem IsQuotable.not_mem_toLatin1 {name : String} (h : IsQuotable name) {b : UInt8}
    (hb : b ∈ [34, 92, 59, cr]) :
    Char.ofNat b.toNat ∉ Bytes.toLatin1 (Text.encodeUtf8 name) := by
  rw [Bytes.mem_toLatin1]
  exact h.not_mem hb

/-- **The headers of a text field**. -/
theorem readHeaders_dispositionOf {name : String} (h : IsQuotable name) (before rest : Bytes) :
    readHeaders before
      (dispositionName ++ 58 :: (32 :: dispositionOf name ++ cr :: lf :: cr :: lf :: rest)) =
      .complete (dispositionOf name) rest := by
  have hvalue : cr ∉ dispositionOf name := by
    have hopen : cr ∉ Bytes.ofLatin1 "form-data; name=\"" := by decide
    have hclose : cr ∉ Bytes.ofLatin1 "\"" := by decide
    have hname : cr ∉ Text.encodeUtf8 name := h.not_mem (by decide)
    simp [dispositionOf, hopen, hclose, hname]
  have hfirst : (dispositionOf name).head? = some 102 := by
    rw [dispositionOf, List.append_assoc]
    rfl
  have hline : readHeaderLine
      (dispositionName ++ 58 :: (32 :: dispositionOf name ++ cr :: lf :: cr :: lf :: rest)) =
      .field dispositionName (dispositionOf name) (cr :: lf :: rest) :=
    readHeaderLine_append (by decide) (by decide +kernel) hvalue (by simp [hfirst]) _
  rw [readHeaders_of_field hline, if_pos (by decide), readHeaders_blank]

theorem read_dispositionOf {name : String} (h : IsQuotable name) :
    HeaderValue.read (String.ofList (Bytes.toLatin1 (dispositionOf name))) =
      .ok ⟨"form-data",
        [("name", String.ofList (Bytes.toLatin1 (Text.encodeUtf8 name)))]⟩ := by
  have htext : String.ofList (Bytes.toLatin1 (dispositionOf name)) = "form-data" ++ ";" ++
      String.ofList (" name".toList ++ '=' ::
        ('"' :: Bytes.toLatin1 (Text.encodeUtf8 name) ++ ['"'])) := by
    have hopen : Bytes.toLatin1 (Bytes.ofLatin1 "form-data; name=\"")
        = "form-data".toList ++ ";".toList ++ " name".toList ++ ['=', '"'] := by decide
    have hclose : Bytes.toLatin1 (Bytes.ofLatin1 "\"") = ['"'] := by decide
    rw [dispositionOf, Bytes.toLatin1_append, Bytes.toLatin1_append, hopen, hclose,
      ← String.toList_inj]
    simp only [String.toList_append, String.toList_ofList, List.append_assoc, List.cons_append,
      List.nil_append]
  have hquote : ';' ∉ " name".toList ++ '=' ::
      ('"' :: Bytes.toLatin1 (Text.encodeUtf8 name) ++ ['"']) := by
    have hmark := h.not_mem_toLatin1 (b := 59) (by decide)
    have hfirst : ';' ∉ " name".toList := by decide
    simpa [hfirst] using hmark
  have hslash : '\\' ∉ Bytes.toLatin1 (Text.encodeUtf8 name) :=
    h.not_mem_toLatin1 (b := 92) (by decide)
  rw [htext, HeaderValue.read_append_semicolon (List.all_eq_true.mp (by decide)),
    String.toList_ofList, HeaderValue.readParameters_singleton hquote (by decide) (by decide),
    HeaderValue.unquote_strip_quoted hslash]
  rfl

theorem decode_encodeUtf8 (s : String) : Text.Charset.utf8.decode (Text.encodeUtf8 s) = s := by
  rw [Text.Charset.decode, Text.Charset.decode?, Text.decodeUtf8?_encodeUtf8]
  exact String.ofList_toList

/-- **What the disposition of a text field says**. -/
theorem readDisposition_dispositionOf {name : String} (h : IsQuotable name) {count : Count}
    (hfew : count.fields < maxFields) :
    readDisposition .utf8 (dispositionOf name) count =
      .ok (name, false, { count with fields := count.fields + 1 }) := by
  have hroom : ¬count.fields + 1 > maxFields := by omega
  -- The header is read byte by byte, and the name that was found is decoded afterwards.
  rw [readDisposition, read_dispositionOf h]
  show (if count.fields + 1 > maxFields then _ else Except.ok (Text.Charset.utf8.decode
    (Bytes.ofLatin1 (String.ofList (Bytes.toLatin1 (Text.encodeUtf8 name)))), false, _)) = _
  rw [if_neg hroom, Bytes.ofLatin1_toLatin1, decode_encodeUtf8]

/-! ### Forms -/

/-- A text field of a form that is to be written. -/
structure Field where
  name : String
  data : Bytes

/-- The part that the reader makes of a field. -/
def Field.toPart (f : Field) : Part :=
  makePart .utf8 f.name false f.data

/-- A field that can be written with a boundary. -/
structure Field.Fits (boundary : Bytes) (f : Field) : Prop where
  isQuotable : IsQuotable f.name
  length_le : f.data.length ≤ maxPartSize
  /-- The boundary does not occur in the data. -/
  unbroken : ¬boundary <:+: f.data

/-- A part before some text: its header, an empty line, its data and the delimiter. -/
def writePart (boundary : Bytes) (f : Field) (after : Bytes) : Bytes :=
  dispositionName ++ 58 :: (32 :: dispositionOf f.name ++ cr :: lf :: cr :: lf ::
    (f.data ++ delimiterOf boundary ++ after))

/-- What stands after a delimiter if these fields are left. -/
def writeAfter (boundary : Bytes) : List Field → Bytes
  | [] => [hyphen, hyphen, cr, lf]
  | f :: fields => cr :: lf :: writePart boundary f (writeAfter boundary fields)

/-- A form of text fields. -/
def write (boundary : Bytes) (fields : List Field) : Bytes :=
  hyphen :: hyphen :: boundary ++ writeAfter boundary fields

variable {f : Field} {count : Count}

/-- A part before some text: how its data end decides. -/
theorem readParts_writePart (hf : f.Fits boundary) (hfew : count.fields < maxFields)
    (read : List Part) (after : Bytes) :
    readParts .utf8 (delimiterOf boundary) count read (writePart boundary f after) =
      match readData (delimiterOf boundary) [] (f.data ++ delimiterOf boundary ++ after) with
      | .unfinished data =>
        if data.length - pendingLength (delimiterOf boundary) data > maxPartSize then
          .error .oversizedPart
        else .ok read.reverse
      | .next data rest =>
        if data.length > maxPartSize then .error .oversizedPart
        else readParts .utf8 (delimiterOf boundary) { count with fields := count.fields + 1 }
          (makePart .utf8 f.name false data :: read) rest
      | .last data =>
        if data.length > maxPartSize then .error .oversizedPart
        else .ok (makePart .utf8 f.name false data :: read).reverse := by
  have hheaders : readHeaders [] (writePart boundary f after) =
      .complete (dispositionOf f.name) (f.data ++ delimiterOf boundary ++ after) :=
    readHeaders_dispositionOf hf.isQuotable [] _
  have hdisposition := readDisposition_dispositionOf hf.isQuotable hfew
  -- Only fields without a file name, such as this one, have a bound on their size.
  have hoversized : ∀ n, isOversized false n = decide (n > maxPartSize) := fun n => rfl
  rw [readParts]
  split
  · rename_i h
    rw [hheaders] at h
    cases h
  · rename_i h
    rw [hheaders] at h
    cases h
  · rename_i h
    rw [hheaders] at h
    cases h
    rw [hdisposition]
    dsimp only
    split <;> rename_i hdata <;> rw [hdata] <;> simp only [hoversized, decide_eq_true_eq]

theorem readParts_writePart_last (hcr : cr ∉ boundary) (hf : f.Fits boundary)
    (hfew : count.fields < maxFields) (read : List Part) :
    readParts .utf8 (delimiterOf boundary) count read
      (writePart boundary f (writeAfter boundary [])) = .ok (f.toPart :: read).reverse := by
  have hdata : readData (delimiterOf boundary) []
      (f.data ++ delimiterOf boundary ++ writeAfter boundary []) = .last f.data :=
    readData_last hcr hf.unbroken _
  rw [readParts_writePart hf hfew, hdata]
  exact if_neg (Nat.not_lt.mpr hf.length_le)

theorem readParts_writePart_next (hcr : cr ∉ boundary) (hf : f.Fits boundary)
    (hfew : count.fields < maxFields) (read : List Part) (g : Field) (fields : List Field) :
    readParts .utf8 (delimiterOf boundary) count read
        (writePart boundary f (writeAfter boundary (g :: fields))) =
      readParts .utf8 (delimiterOf boundary) { count with fields := count.fields + 1 }
        (f.toPart :: read) (writePart boundary g (writeAfter boundary fields)) := by
  have hdata : readData (delimiterOf boundary) []
      (f.data ++ delimiterOf boundary ++ writeAfter boundary (g :: fields)) =
        .next f.data (writePart boundary g (writeAfter boundary fields)) :=
    readData_next hcr hf.unbroken _
  rw [readParts_writePart hf hfew, hdata]
  exact if_neg (Nat.not_lt.mpr hf.length_le)

/-- The parts from some field on, after those that were read. -/
theorem readParts_write (hcr : cr ∉ boundary) (fields : List Field) (count : Count)
    (hfits : ∀ g ∈ f :: fields, g.Fits boundary)
    (hfew : count.fields + (f :: fields).length ≤ maxFields) (read : List Part) :
    readParts .utf8 (delimiterOf boundary) count read
        (writePart boundary f (writeAfter boundary fields)) =
      .ok (read.reverse ++ (f :: fields).map Field.toPart) := by
  have hf : f.Fits boundary := hfits f List.mem_cons_self
  -- Each field moves one part to those that were read, and leaves room for one field less.
  induction fields generalizing f count read with
  | nil =>
    have hroom : count.fields < maxFields := hfew
    rw [readParts_writePart_last hcr hf hroom, List.reverse_cons]
    rfl
  | cons g fields ih =>
    have hrest : ∀ h ∈ g :: fields, h.Fits boundary := fun h hh =>
      hfits h (List.mem_cons_of_mem _ hh)
    simp only [List.length_cons] at hfew
    have hfew' : count.fields + 1 + (g :: fields).length ≤ maxFields := by
      simp only [List.length_cons]
      omega
    rw [readParts_writePart_next hcr hf (by omega),
      ih _ hrest hfew' (f.toPart :: read) (hrest g List.mem_cons_self), List.reverse_cons,
      List.append_assoc]
    rfl

/-- **A form that was written is read back**: its fields, in their order. -/
theorem readBody_write (hcr : cr ∉ boundary) (fields : List Field)
    (hfits : ∀ f ∈ fields, f.Fits boundary) (hfew : fields.length ≤ maxFields) :
    readBody .utf8 boundary (write boundary fields) = .ok (fields.map Field.toPart) := by
  have hstart : (write boundary fields).dropWhile (fun b => b == cr || b == lf)
      = write boundary fields := List.dropWhile_cons_of_neg (by decide)
  have hopening : (hyphen :: hyphen :: boundary).isPrefixOf (write boundary fields) = true :=
    List.isPrefixOf_iff_prefix.mpr (List.prefix_append _ _)
  have hdrop : (write boundary fields).drop (hyphen :: hyphen :: boundary).length
      = writeAfter boundary fields := List.drop_left
  rw [readBody, hstart, hopening, hdrop]
  cases fields with
  | nil => rfl
  | cons f fields =>
    have hparts := readParts_write hcr fields ⟨0, 0⟩ hfits (by simpa using hfew) []
    simpa [writeAfter, delimiterOf] using hparts

end CardHealth.Form.Multipart
