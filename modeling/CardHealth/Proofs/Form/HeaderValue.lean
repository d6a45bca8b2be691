import CardHealth.Form.HeaderValue
import CardHealth.Proofs.Text.Blank
import CardHealth.Proofs.Text.LetterCase
import CardHealth.Proofs.Text.Mark

/-!
# Heads and parameters

A header value whose head has no marks is read as that head in small letters
(`read_of_isPlain`) and the parameters after it (`read_append_semicolon`).  So the case of the head
does not matter (`read_lowerAscii_append`).
-/

namespace CardHealth.Form.HeaderValue

open Text

/-- Whether a character stands for itself anywhere in a head. -/
def isPlain (c : Char) : Bool :=
  !(['"', ';', '='].contains c) && !isSpacing c

/-- The parameters after the first semicolon. -/
def readParameters (s : List Char) : Except Error (List (String × String)) :=
  resolveParts <| (pieces s).map fun piece =>
    let (name, value) := nameAndValue piece
    (name, unquote value)

/-! ### Pieces -/

theorem openQuotes_of_not_mem {s : List Char} (h : '"' ∉ s) : openQuotes s = 0 := by
  rw [openQuotes, List.count_eq_zero.mpr h, Nat.zero_sub]

theorem joinQuoted_cons {piece : List Char} (h : '"' ∉ piece) {rest : List (List Char)}
    (hne : rest ≠ []) : joinQuoted (piece :: rest) = piece :: joinQuoted rest := by
  obtain ⟨next, rest, rfl⟩ := List.exists_cons_of_ne_nil hne
  rw [joinQuoted, openQuotes_of_not_mem h]
  rfl

theorem pieces_append_semicolon {s : List Char} (hmark : ';' ∉ s) (hquote : '"' ∉ s)
    (rest : List Char) : pieces (s ++ ';' :: rest) = s :: pieces rest := by
  rw [pieces, splitOnP_beq_append hmark, joinQuoted_cons hquote (List.splitOnP_ne_nil _ _), pieces]

theorem pieces_of_not_mem {s : List Char} (h : ';' ∉ s) : pieces s = [s] := by
  rw [pieces, splitOnP_beq_of_not_mem h, joinQuoted]

/-! ### Names and values -/

theorem nameAndValue_append {name : List Char} (h : '=' ∉ name) (value : List Char) :
    nameAndValue (name ++ '=' :: value) = ((strip name).map lowerAsciiChar, strip value) := by
  rw [nameAndValue, takeWhile_bne_append h, dropWhile_bne_append h]

theorem nameAndValue_of_not_mem {s : List Char} (h : '=' ∉ s) :
    nameAndValue s = (strip s, []) := by
  rw [nameAndValue, dropWhile_bne_of_not_mem h]

theorem strip_eq_self {s : List Char} (h : ∀ c ∈ s, isSpacing c = false) : strip s = s :=
  trimBy_eq_self h

/-! ### Heads -/

theorem isPlain_of_capital {c : Char} (h : 'A' ≤ c ∧ c ≤ 'Z') : isPlain c = true := by
  simp only [Char.le_def, UInt32.le_iff_toNat_le] at h
  have hlow : 65 ≤ c.toNat := h.1
  have hhigh : c.toNat ≤ 90 := h.2
  have hmark : c ∉ ['"', ';', '='] := by
    simp only [List.mem_cons, List.not_mem_nil, or_false, not_or]
    refine ⟨?_, ?_, ?_⟩ <;> rintro rfl <;> revert hlow hhigh <;> decide
  have hspacing : isSpacing c = false := by
    simp only [isSpacing, isBlank, Bool.or_eq_false_iff, Bool.and_eq_false_iff,
      decide_eq_false_iff_not, beq_eq_false_iff_ne]
    omega
  rw [isPlain, hspacing]
  simpa using hmark

/-- A character that is plain in small letters is plain. -/
theorem isPlain_of_lowerAsciiChar {c : Char} (h : isPlain (lowerAsciiChar c) = true) :
    isPlain c = true := by
  by_cases hc : 'A' ≤ c ∧ c ≤ 'Z'
  · exact isPlain_of_capital hc
  · rwa [lowerAsciiChar_of_not_capital hc] at h

section Head

variable {head : String} (hplain : ∀ c ∈ head.toList, isPlain c = true)

include hplain

theorem not_mem_of_isPlain {c : Char} (hc : c ∈ ['"', ';', '=']) : c ∉ head.toList := by
  intro hmem
  have hmark := (Bool.and_eq_true_iff.mp (hplain c hmem)).1
  rw [List.contains_iff_mem.mpr hc] at hmark
  cases hmark

theorem strip_of_isPlain : strip head.toList = head.toList :=
  strip_eq_self fun c hc => by simpa using (Bool.and_eq_true_iff.mp (hplain c hc)).2

/-- Before parameters, the head is put in small letters. -/
theorem read_append_semicolon (parameters : String) :
    read (head ++ ";" ++ parameters) =
      (readParameters parameters.toList).map (HeaderValue.mk (lowerAscii head)) := by
  have hlist : (head ++ ";" ++ parameters).toList = head.toList ++ ';' :: parameters.toList := by
    rw [String.toList_append, String.toList_append, List.append_assoc]
    rfl
  have hpieces : pieces (head.toList ++ ';' :: parameters.toList)
      = head.toList :: pieces parameters.toList :=
    pieces_append_semicolon (not_mem_of_isPlain hplain (by simp))
      (not_mem_of_isPlain hplain (by simp)) _
  have hhead : nameAndValue head.toList = (head.toList, []) := by
    rw [nameAndValue_of_not_mem (not_mem_of_isPlain hplain (by simp)), strip_of_isPlain hplain]
  rw [read, hlist]
  dsimp only
  rw [if_pos (by simp), hpieces]
  dsimp only
  rw [hhead, String.ofList_toList]
  rfl

/-- Without parameters, the head is put in small letters. -/
theorem read_of_isPlain : read head = .ok ⟨lowerAscii head, []⟩ := by
  rw [read, strip_of_isPlain hplain, String.ofList_toList]
  exact if_neg (by simpa using not_mem_of_isPlain hplain (by simp))

end Head

theorem forall_isPlain_of_lowerAscii {head : String}
    (h : ∀ c ∈ (lowerAscii head).toList, isPlain c = true) :
    ∀ c ∈ head.toList, isPlain c = true := by
  intro c hc
  refine isPlain_of_lowerAsciiChar (h _ ?_)
  rw [lowerAscii, String.toList_ofList]
  exact List.mem_map_of_mem hc

/-- Whether a text is empty or begins with a semicolon, as the parameters after a head do. -/
def AreParameters (parameters : String) : Prop :=
  parameters = "" ∨ ∃ rest, parameters = ";" ++ rest

theorem head_of_read_append {head parameters : String} {h : HeaderValue}
    (hplain : ∀ c ∈ head.toList, isPlain c = true) (hparameters : AreParameters parameters)
    (hread : read (head ++ parameters) = .ok h) : h.head = lowerAscii head := by
  rcases hparameters with rfl | ⟨rest, rfl⟩
  · rw [String.append_empty, read_of_isPlain hplain] at hread
    exact congrArg HeaderValue.head (Except.ok.inj hread).symm
  · rw [← String.append_assoc, read_append_semicolon hplain] at hread
    cases hrest : readParameters rest.toList with
    | error e =>
      rw [hrest] at hread
      cases hread
    | ok named =>
      rw [hrest] at hread
      exact congrArg HeaderValue.head (Except.ok.inj hread).symm

/-- **The case of the head does not matter**, whether or not parameters follow. -/
theorem read_lowerAscii_append {head parameters : String}
    (hplain : ∀ c ∈ (lowerAscii head).toList, isPlain c = true)
    (hparameters : AreParameters parameters) :
    read (lowerAscii head ++ parameters) = read (head ++ parameters) := by
  have hhead := forall_isPlain_of_lowerAscii hplain
  rcases hparameters with rfl | ⟨rest, rfl⟩
  · rw [String.append_empty, String.append_empty, read_of_isPlain hplain, read_of_isPlain hhead,
      lowerAscii_lowerAscii]
  · rw [← String.append_assoc, ← String.append_assoc, read_append_semicolon hplain,
      read_append_semicolon hhead, lowerAscii_lowerAscii]

/-! ### Quoted and bare values -/

theorem dropBackslashes_of_not_mem (c : Char) {s : List Char} (h : '\\' ∉ s) :
    dropBackslashes c s = s := by
  fun_induction dropBackslashes c s with
  | case1 => simp at h
  | case2 => simp at h
  | case3 d rest _ ih => rw [ih fun hmem => h (List.mem_cons_of_mem _ hmem)]
  | case4 => rfl

/-- A value between quotation marks is what is between them, also if it begins or ends with
blanks. -/
theorem unquote_strip_quoted {s : List Char} (hslash : '\\' ∉ s) :
    unquote (strip ('"' :: s ++ ['"'])) = s := by
  have hlast : ('"' :: s ++ ['"']).getLast? = some '"' := List.getLast?_concat
  have hspacing : isSpacing '"' = false := by decide
  have hstrip : strip ('"' :: s ++ ['"']) = '"' :: s ++ ['"'] :=
    trimBy_of_ends (by simp) (by simpa using hspacing) fun c hc => by
      rw [hlast, Option.mem_some_iff] at hc
      exact hc ▸ hspacing
  have henclosed : isEnclosed '"' '"' ('"' :: s ++ ['"']) = true := by
    rw [isEnclosed, hlast]
    simp
  rw [hstrip, unquote, if_pos henclosed]
  simp [dropBackslashes_of_not_mem _ hslash]

/-- A value without marks is what it is. -/
theorem unquote_strip_bare {s : List Char} (hspacing : ∀ c ∈ s, isSpacing c = false)
    (hquote : '"' ∉ s) (hangle : '<' ∉ s) : unquote (strip s) = s := by
  have hnot : ∀ first last, first ∉ s → isEnclosed first last s = false := by
    intro first last hfirst
    cases s with
    | nil => rfl
    | cons c rest =>
      have hne : c ≠ first := fun heq => hfirst (heq ▸ List.mem_cons_self)
      simp [isEnclosed, hne]
  rw [strip_eq_self hspacing, unquote, hnot _ _ hquote, hnot _ _ hangle]
  rfl

/-- One parameter that does not come in parts. -/
theorem readParameters_singleton {name value : List Char} (hmark : ';' ∉ name ++ '=' :: value)
    (hsign : '=' ∉ name) (hparts : partName? ((strip name).map lowerAsciiChar) = none) :
    readParameters (name ++ '=' :: value) =
      .ok [(String.ofList ((strip name).map lowerAsciiChar),
        String.ofList (unquote (strip value)))] := by
  rw [readParameters, pieces_of_not_mem hmark, List.map_singleton, nameAndValue_append hsign]
  simp only [resolveParts, List.filter_cons, List.filterMap_cons, hparts]
  rfl

end CardHealth.Form.HeaderValue
