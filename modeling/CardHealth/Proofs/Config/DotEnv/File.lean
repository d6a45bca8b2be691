import CardHealth.Proofs.Config.DotEnv.Quoted
import CardHealth.Proofs.Text.Mark
import CardHealth.Proofs.Text.Utf8

/-!
# Variable files of quoted values

A file with an assignment of a quoted text on each line, and any comments and blank lines between
them, is read as these assignments (`read_fileOf`).  The texts may hold anything but CR and `${`,
which would be replaced.

A line is read as if it stood alone, and the lines after it are left (`readLine_assignment`,
`readLine_comment`).  A blank line is not read as a line: it is skipped with the white space before
the next one, which the induction over the lines carries along (`readLinesOnto_textOf`).
-/

namespace CardHealth.Config.DotEnv

open Text (isSpacing)

/-! ### Lines as they are written -/

/-- A name that is written without quotes. -/
def IsName (name : String) : Prop :=
  name ≠ "" ∧ name.toList.all isNameChar ∧ '\'' ∉ name.toList

instance : DecidablePred IsName :=
  fun name => inferInstanceAs (Decidable
    (name ≠ "" ∧ name.toList.all isNameChar ∧ '\'' ∉ name.toList))

/-- A line of a variable file. -/
inductive Line where
  /-- A name and a text between quotes. -/
  | assignment (name text : String)
  /-- A hash mark with white space before it and the comment after it. -/
  | comment (indent body : String)
  /-- Only white space. -/
  | blank (space : String)
  deriving DecidableEq

namespace Line

/-- A line as it is written, without the line break after it. -/
def chars : Line → List Char
  | assignment name text => name.toList ++ '=' :: '\'' :: (escaped text.toList ++ ['\''])
  | comment indent body => indent.toList ++ '#' :: body.toList
  | blank space => space.toList

/-- What a line assigns. -/
def assigned? : Line → Option (String × String)
  | assignment name text => some (name, text)
  | _ => none

/-- A line that can be written: a comment and white space stay in it, and the text that it assigns
holds neither CR nor a variable to be replaced. -/
def IsPlain : Line → Prop
  | assignment name text => IsName name ∧ '\r' ∉ text.toList ∧ ¬ ['$', '\x7b'] <:+: text.toList
  | comment indent body => indent.toList.all isLineSpace ∧ body.toList.all isInLine
  | blank space => space.toList.all isLineSpace

instance : DecidablePred IsPlain
  | assignment name text =>
    inferInstanceAs (Decidable (IsName name ∧ '\r' ∉ text.toList ∧
      ¬ ['$', '\x7b'] <:+: text.toList))
  | comment indent body =>
    inferInstanceAs (Decidable (indent.toList.all isLineSpace ∧ body.toList.all isInLine))
  | blank space => inferInstanceAs (Decidable (space.toList.all isLineSpace))

end Line

/-- Lines as they are written, with a line break between each two. -/
def textOf (lines : List Line) : List Char :=
  ['\n'].intercalate (lines.map Line.chars)

/-- The content of a file with these lines. -/
def fileOf (lines : List Line) : Bytes :=
  Text.encodeUtf8 (String.ofList (textOf lines))

/-- What lines assign, in order. -/
def assigned (lines : List Line) : List (String × String) :=
  lines.filterMap Line.assigned?

/-- What stands between a line and those after it. -/
def lineBreak (lines : List Line) : List Char :=
  if lines.isEmpty then [] else ['\n']

theorem textOf_cons (line : Line) (lines : List Line) :
    textOf (line :: lines) = line.chars ++ (lineBreak lines ++ textOf lines) := by
  cases lines with
  | nil => simp [textOf, lineBreak, List.intercalate]
  | cons other lines => simp [textOf, lineBreak, List.intercalate]

theorem mem_textOf {lines : List Line} {c : Char} (h : c ∈ textOf lines) :
    c = '\n' ∨ ∃ line ∈ lines, c ∈ line.chars := by
  induction lines with
  | nil => cases h
  | cons line lines ih =>
    rw [textOf_cons, List.mem_append, List.mem_append] at h
    rcases h with hline | hbreak | hrest
    · exact .inr ⟨line, List.mem_cons_self, hline⟩
    · unfold lineBreak at hbreak
      split at hbreak
      · cases hbreak
      · exact .inl (List.mem_singleton.mp hbreak)
    · rcases ih hrest with hc | ⟨other, hother, hc⟩
      · exact .inl hc
      · exact .inr ⟨other, List.mem_cons_of_mem _ hother, hc⟩

/-! ### Parts of a line -/

section Parts

variable {name : String} {rest : List Char}

theorem isSpacing_of_isNameChar {c : Char} (h : isNameChar c) : isSpacing c = false := by
  simp only [isNameChar, Bool.and_eq_true, Bool.not_eq_true'] at h
  exact h.2

theorem IsName.isNameChar (hname : IsName name) : ∀ c ∈ name.toList, isNameChar c :=
  List.all_eq_true.mp hname.2.1

theorem IsName.exists_eq_cons (hname : IsName name) :
    ∃ c tail, name.toList = c :: tail ∧ DotEnv.isNameChar c ∧ c ≠ '\'' := by
  obtain ⟨c, tail, hcons⟩ : ∃ c tail, name.toList = c :: tail :=
    List.exists_cons_of_ne_nil fun h => hname.1 (String.toList_eq_nil_iff.mp h)
  have hmem : c ∈ name.toList := by rw [hcons]; exact List.mem_cons_self
  refine ⟨c, tail, hcons, hname.isNameChar c hmem, ?_⟩
  rintro rfl
  exact hname.2.2 hmem

/-- A name does not begin with the word that may stand before it: an equals sign follows it, not
white space. -/
theorem skipExport_name (hname : IsName name) :
    skipExport (name.toList ++ '=' :: rest) = name.toList ++ '=' :: rest := by
  have hspace (c : Char) (hc : c ∈ name.toList ∨ c = '=') : isLineSpace c = false := by
    rcases hc with hc | rfl
    · have hspace := isSpacing_of_isNameChar (hname.isNameChar c hc)
      simp [isLineSpace, hspace]
    · decide
  unfold skipExport
  dsimp only
  rw [if_neg]
  simp only [Bool.and_eq_true, not_and, Bool.not_eq_true]
  intro hword
  -- The word is within the name, so what follows it is in the name or is the equals sign.
  obtain ⟨after, hafter⟩ := List.isPrefixOf_iff_prefix.mp hword
  rcases List.append_eq_append_iff.mp hafter with ⟨tail, hname', -⟩ | ⟨tail, hword', htail⟩
  · rw [hname', List.append_assoc, List.drop_left]
    cases tail with
    | nil => simp [hspace '=' (.inr rfl)]
    | cons c tail =>
      have hc : c ∈ name.toList := by rw [hname']; simp
      simp [hspace c (.inl hc)]
  · cases tail with
    | nil =>
      rw [List.append_nil] at hword'
      rw [hword', List.drop_left]
      simp [hspace '=' (.inr rfl)]
    | cons c tail =>
      obtain ⟨rfl, -⟩ := List.cons.inj htail
      have hmem : '=' ∈ "export".toList := by rw [hword']; simp
      exact absurd hmem (by decide)

theorem readName_name (hname : IsName name) :
    readName (name.toList ++ '=' :: rest) = .name name.toList ('=' :: rest) := by
  have htake : (name.toList ++ '=' :: rest).takeWhile isNameChar = name.toList :=
    Text.takeWhile_append_of_head hname.isNameChar (by simp [isNameChar])
  have hdrop : (name.toList ++ '=' :: rest).dropWhile isNameChar = '=' :: rest :=
    Text.dropWhile_append_of_head hname.isNameChar (by simp [isNameChar])
  obtain ⟨c, tail, hcons, hchar, hquote⟩ := hname.exists_eq_cons
  have hhash : c ≠ '#' := by
    rintro rfl
    cases hchar
  rw [hcons] at htake hdrop ⊢
  rw [List.cons_append] at htake hdrop ⊢
  unfold readName
  split
  · rename_i heq
    exact absurd (List.cons.inj heq).1 hhash
  · rename_i heq
    exact absurd (List.cons.inj heq).1 hquote
  · rw [htake, hdrop]

/-- What follows a line begins with a line break. -/
def IsAfterLine (rest : List Char) : Prop :=
  rest = [] ∨ ∃ after, rest = '\n' :: after

theorem isAfterLine_lineBreak (lines : List Line) :
    IsAfterLine (lineBreak lines ++ textOf lines) := by
  cases lines with
  | nil => exact .inl rfl
  | cons line lines => exact .inr ⟨_, rfl⟩

theorem drop_lineBreak (lines : List Line) :
    (lineBreak lines ++ textOf lines).drop 1 = textOf lines := by
  cases lines <;> rfl

theorem endLine?_of_isAfterLine (h : IsAfterLine rest) :
    endLine? (skipComment rest) = some (rest.drop 1) := by
  rcases h with rfl | ⟨after, rfl⟩
  · rfl
  · have hspace : skipLineSpace ('\n' :: after) = '\n' :: after :=
      List.dropWhile_cons_of_neg (by decide)
    have hcomment : skipComment ('\n' :: after) = '\n' :: after := by
      rw [skipComment, hspace]
      rfl
    rw [hcomment, endLine?, hspace]
    rfl

/-- **An assignment of a quoted text is read alone**, and leaves what follows its line. -/
theorem readLine_assignment {text : String} (hname : IsName name) (hrest : IsAfterLine rest) :
    readLine ((Line.assignment name text).chars ++ rest) =
      (some ⟨name, some text⟩, rest.drop 1) := by
  have hchars : (Line.assignment name text).chars ++ rest =
      name.toList ++ '=' :: ('\'' :: (escaped text.toList ++ '\'' :: rest)) := by
    simp [Line.chars]
  have hequals (s : List Char) : skipLineSpace ('=' :: s) = '=' :: s :=
    List.dropWhile_cons_of_neg (by decide)
  have hquote (s : List Char) : skipLineSpace ('\'' :: s) = '\'' :: s :=
    List.dropWhile_cons_of_neg (by decide)
  have hvalue := readValue?_quoted text.toList rest
  rw [hchars, readLine, skipExport_name hname, readName_name hname]
  simp only [hequals, hquote, hvalue, Option.map_some, endLine?_of_isAfterLine hrest,
    String.ofList_toList]

/-- A comment is passed over. -/
theorem readLine_comment {body : List Char} (hbody : body.all isInLine)
    (hrest : IsAfterLine rest) : readLine ('#' :: (body ++ rest)) = (none, rest.drop 1) := by
  have hexport : skipExport ('#' :: (body ++ rest)) = '#' :: (body ++ rest) := rfl
  have hhead : ∀ c ∈ rest.head?, isInLine c = false := by
    rcases hrest with rfl | ⟨after, rfl⟩
    · simp
    · simp [isInLine]
  have hskip : skipLine ('#' :: (body ++ rest)) = rest.drop 1 := by
    rw [skipLine, List.dropWhile_cons_of_pos (by decide),
      Text.dropWhile_append_of_head (List.all_eq_true.mp hbody) hhead]
  rw [readLine, hexport]
  simp only [readName, hskip]

end Parts

/-! ### Lines one after another -/

section Lines

variable {read : List Assignment} {before : List Char} {lines : List Line}

theorem isSpacing_of_all {s : List Char} (h : s.all isLineSpace) : ∀ c ∈ s, isSpacing c := by
  intro c hc
  have hspace : isLineSpace c := List.all_eq_true.mp h c hc
  simp only [isLineSpace, Bool.and_eq_true] at hspace
  exact hspace.1.1

theorem isSpacing_of_mem_lineBreak {c : Char} (h : c ∈ lineBreak lines) : isSpacing c := by
  unfold lineBreak at h
  split at h
  · cases h
  · obtain rfl := List.mem_singleton.mp h
    decide

theorem readLinesOnto_of_forall_isSpacing (hbefore : ∀ c ∈ before, isSpacing c) :
    readLinesOnto read before = read.reverse := by
  have hskip : before.dropWhile isSpacing = [] := List.dropWhile_eq_nil_iff.mpr hbefore
  rw [readLinesOnto, hskip]
  rfl

/-- White space before a line is skipped, and the lines after it are read onto what it assigns. -/
theorem readLinesOnto_line {line rest : List Char} {assignment : Option Assignment}
    (hbefore : ∀ c ∈ before, isSpacing c)
    (hline : ∃ c tail, line = c :: tail ∧ isSpacing c = false)
    (hread : readLine (line ++ rest) = (assignment, rest.drop 1)) :
    readLinesOnto read (before ++ (line ++ rest)) =
      readLinesOnto (assignment.toList ++ read) (rest.drop 1) := by
  obtain ⟨c, tail, rfl, hc⟩ := hline
  have hskip : (before ++ (c :: tail ++ rest)).dropWhile isSpacing = c :: tail ++ rest :=
    Text.dropWhile_append_of_head hbefore (by simp [hc])
  have hlt : (rest.drop 1).length < (before ++ (c :: tail ++ rest)).length := by
    simp only [List.length_drop, List.length_append, List.length_cons]
    omega
  rw [readLinesOnto, hskip]
  dsimp only
  rw [if_neg (by simp), hread]
  dsimp only
  rw [if_pos hlt]

/-- A line with an assignment begins with its name. -/
theorem exists_chars_assignment_eq {name text : String} (hname : IsName name) :
    ∃ c tail, (Line.assignment name text).chars = c :: tail ∧ isSpacing c = false := by
  obtain ⟨c, tail, hcons, hchar, -⟩ := hname.exists_eq_cons
  refine ⟨c, tail ++ '=' :: '\'' :: (escaped text.toList ++ ['\'']), ?_,
    isSpacing_of_isNameChar hchar⟩
  rw [Line.chars, hcons, List.cons_append]

/-- An assignment as it is read from the line that makes it. -/
def Assignment.ofText (v : String × String) : Assignment :=
  ⟨v.1, some v.2⟩

/-- **Plain lines are read one by one**, after white space and onto what was read before them. -/
theorem readLinesOnto_textOf (hplain : ∀ line ∈ lines, line.IsPlain) (read : List Assignment)
    (hbefore : ∀ c ∈ before, isSpacing c) :
    readLinesOnto read (before ++ textOf lines) =
      read.reverse ++ (assigned lines).map Assignment.ofText := by
  induction lines generalizing read before with
  | nil =>
    have htext : textOf [] = [] := rfl
    rw [htext, List.append_nil, readLinesOnto_of_forall_isSpacing hbefore]
    simp [assigned]
  | cons line lines ih =>
    obtain ⟨hline, hlines⟩ := List.forall_mem_cons.mp hplain
    have hafter := isAfterLine_lineBreak lines
    have hnil : ∀ c ∈ ([] : List Char), isSpacing c := by simp
    rw [textOf_cons]
    cases line with
    | assignment name text =>
      obtain ⟨hname, -, -⟩ := hline
      have hread :
          readLine ((Line.assignment name text).chars ++ (lineBreak lines ++ textOf lines)) =
            (some ⟨name, some text⟩, (lineBreak lines ++ textOf lines).drop 1) :=
        readLine_assignment hname hafter
      have hstep := ih hlines (⟨name, some text⟩ :: read) hnil
      rw [readLinesOnto_line hbefore (exists_chars_assignment_eq hname) hread, drop_lineBreak]
      exact hstep.trans (by simp [assigned, Line.assigned?, Assignment.ofText])
    | comment indent body =>
      obtain ⟨hindent, hbody⟩ := hline
      have hread := readLine_comment hbody hafter
      -- The white space before the hash mark is skipped with that before the line.
      have hspace : ∀ c ∈ before ++ indent.toList, isSpacing c :=
        List.forall_mem_append.mpr ⟨hbefore, isSpacing_of_all hindent⟩
      have hchars : before ++ ((Line.comment indent body).chars ++
            (lineBreak lines ++ textOf lines)) =
          (before ++ indent.toList) ++
            ('#' :: body.toList ++ (lineBreak lines ++ textOf lines)) := by
        simp [Line.chars]
      rw [hchars, readLinesOnto_line hspace ⟨'#', body.toList, rfl, by decide⟩ hread,
        drop_lineBreak]
      exact ih hlines read hnil
    | blank space =>
      -- Nothing is read here: the line is white space before the next one.
      have hblank : ∀ c ∈ space.toList ++ lineBreak lines, isSpacing c :=
        List.forall_mem_append.mpr ⟨isSpacing_of_all hline, fun _ => isSpacing_of_mem_lineBreak⟩
      have hspace : ∀ c ∈ before ++ (space.toList ++ lineBreak lines), isSpacing c :=
        List.forall_mem_append.mpr ⟨hbefore, hblank⟩
      have hchars : before ++ ((Line.blank space).chars ++ (lineBreak lines ++ textOf lines)) =
          (before ++ (space.toList ++ lineBreak lines)) ++ textOf lines := by
        simp [Line.chars]
      rw [hchars]
      exact ih hlines read hspace

end Lines

/-! ### Line breaks and variables -/

theorem unifyBreaks_go {s : List Char} (h : '\r' ∉ s) (read : List Char) :
    unifyBreaks.go read s = read.reverse ++ s := by
  induction s generalizing read with
  | nil => simp [unifyBreaks.go]
  | cons c s ih =>
    obtain ⟨hc, hs⟩ := not_or.mp (mt List.mem_cons.mpr h)
    have hplain : unifyBreaks.go read (c :: s) = unifyBreaks.go (c :: read) s := by
      rw [unifyBreaks.go]
      · rintro tail rfl
        exact absurd rfl hc
      · rintro rfl
        exact absurd rfl hc
    rw [hplain, ih hs]
    simp

theorem unifyBreaks_eq_self {s : List Char} (h : '\r' ∉ s) : unifyBreaks s = s := by
  rw [unifyBreaks, unifyBreaks_go h]
  rfl

theorem mem_of_mem_escaped {text : List Char} {c : Char} (h : c ∈ escaped text) :
    c = '\\' ∨ c ∈ text := by
  obtain ⟨d, hd, hc⟩ := List.mem_flatMap.mp h
  unfold quotedChar at hc
  split at hc
  · rcases List.mem_cons.mp hc with rfl | hc
    · exact .inl rfl
    · obtain rfl := List.mem_singleton.mp hc
      exact .inr hd
  · obtain rfl := List.mem_singleton.mp hc
    exact .inr hd

theorem cr_not_mem_of_all {p : Char → Bool} (hp : p '\r' = false) {s : List Char} (h : s.all p) :
    '\r' ∉ s := by
  intro hmem
  rw [List.all_eq_true.mp h _ hmem] at hp
  cases hp

theorem cr_not_mem_chars {line : Line} (h : line.IsPlain) : '\r' ∉ line.chars := by
  cases line with
  | assignment name text =>
    obtain ⟨hname, htext, -⟩ := h
    have hname' : '\r' ∉ name.toList := cr_not_mem_of_all (by decide) hname.2.1
    have hescaped : '\r' ∉ escaped text.toList := by
      intro hmem
      rcases mem_of_mem_escaped hmem with heq | hmem
      · exact absurd heq (by decide)
      · exact htext hmem
    simp [Line.chars, hname', hescaped]
  | comment indent body =>
    obtain ⟨hindent, hbody⟩ := h
    have hindent' : '\r' ∉ indent.toList := cr_not_mem_of_all (by decide) hindent
    have hbody' : '\r' ∉ body.toList := cr_not_mem_of_all (by decide) hbody
    simp [Line.chars, hindent', hbody']
  | blank space => exact cr_not_mem_of_all (by decide) h

theorem readLines_textOf {lines : List Line} (hplain : ∀ line ∈ lines, line.IsPlain) :
    readLines (String.ofList (textOf lines)) = (assigned lines).map Assignment.ofText := by
  have hcr : '\r' ∉ textOf lines := by
    intro hmem
    rcases mem_textOf hmem with heq | ⟨line, hline, hchar⟩
    · exact absurd heq (by decide)
    · exact cr_not_mem_chars (hplain line hline) hchar
  have hnil : ∀ c ∈ ([] : List Char), isSpacing c := by simp
  rw [readLines, String.toList_ofList, unifyBreaks_eq_self hcr]
  exact readLinesOnto_textOf hplain [] hnil

/-- A text without a variable is made of its characters alone. -/
theorem piecesOnto_of_not_infix {s : List Char} (h : ¬ ['$', '\x7b'] <:+: s) (read : List Piece) :
    piecesOnto read s = read.reverse ++ s.map .char := by
  induction s generalizing read with
  | nil => simp [piecesOnto]
  | cons c s ih =>
    have hhead : ¬ (c == '$' && s.head? == some '\x7b') := by
      intro hmark
      obtain ⟨hc, hopen⟩ := Bool.and_eq_true_iff.mp hmark
      obtain rfl := beq_iff_eq.mp hc
      obtain ⟨tail, rfl⟩ := List.head?_eq_some_iff.mp (beq_iff_eq.mp hopen)
      exact h ⟨[], tail, rfl⟩
    have hs : ¬ ['$', '\x7b'] <:+: s := fun hinfix => h (List.infix_cons hinfix)
    rw [piecesOnto, if_neg hhead, ih hs]
    simp

theorem expand_of_not_infix {s : String} (h : ¬ ['$', '\x7b'] <:+: s.toList)
    (values : String → Option String) : expand values s = s := by
  have hchars : (s.toList.map Piece.char).flatMap (Piece.expand values) = s.toList := by
    rw [List.flatMap_map]
    exact List.flatMap_singleton' s.toList
  rw [expand, piecesOnto_of_not_infix h, List.reverse_nil, List.nil_append, hchars,
    String.ofList_toList]

/-- Texts without variables are resolved to themselves, whatever was assigned before. -/
theorem resolve_of_not_infix {vars : List (String × String)}
    (h : ∀ v ∈ vars, ¬ ['$', '\x7b'] <:+: v.2.toList) (environment : List (String × String)) :
    resolve environment (vars.map Assignment.ofText) = vars.map fun v => (v.1, some v.2) := by
  -- The induction carries the assignments that are already resolved.
  have hfrom (before : List (String × Option String)) :
      (vars.map Assignment.ofText).foldl (fun before assignment =>
          before ++ [(assignment.name, assignment.value.map (expand (lookup environment before)))])
        before = before ++ vars.map fun v => (v.1, some v.2) := by
    induction vars generalizing before with
    | nil => simp
    | cons v vars ih =>
      obtain ⟨hv, hvars⟩ := List.forall_mem_cons.mp h
      have hexpand := expand_of_not_infix hv (lookup environment before)
      rw [List.map_cons, List.foldl_cons, ih hvars]
      simp [Assignment.ofText, hexpand]
  exact hfrom []

/-- **A file of plain lines is read as what they assign**. -/
theorem read_fileOf {lines : List Line} (hplain : ∀ line ∈ lines, line.IsPlain)
    (environment : List (String × String)) :
    read environment (fileOf lines) = .ok ((assigned lines).map fun v => (v.1, some v.2)) := by
  have hplain' : ∀ v ∈ assigned lines, ¬ ['$', '\x7b'] <:+: v.2.toList := by
    intro v hv
    obtain ⟨line, hline, hassigned⟩ := List.mem_filterMap.mp hv
    cases line with
    | assignment name text =>
      obtain rfl := Option.some.inj hassigned
      exact (hplain _ hline).2.2
    | comment => cases hassigned
    | blank => cases hassigned
  rw [read, fileOf, Text.decodeUtf8_encodeUtf8]
  show Except.ok (resolve environment (readLines (String.ofList (textOf lines)))) = _
  rw [readLines_textOf hplain, resolve_of_not_infix hplain']

end CardHealth.Config.DotEnv
