import CardHealth.Proofs.Json.Number
import CardHealth.Proofs.Json.String

/-!
# JSON texts

The compact text of a value is read back as that value (`read?_render`), with one change: nan and
the infinities have no text of their own and come back as null (`asRead`).  The reader gets through
because it goes at most one level down for each character: an item of an array is shorter than the
array by the brackets and by a comma for each item before it.
-/

namespace CardHealth.Json

/-! ### Values as they are read -/

mutual

/-- A value with null for every number that is not finite. -/
def asRead : Json → Json
  | .float x => if x.isFinite then .float x else .null
  | .array items => .array (asReadItems items)
  | .object members => .object (asReadMembers members)
  | value => value

/-- The items of an array as they are read. -/
def asReadItems : List Json → List Json
  | [] => []
  | item :: items => item.asRead :: asReadItems items

/-- The members of an object as they are read. -/
def asReadMembers : List (String × Json) → List (String × Json)
  | [] => []
  | (key, value) :: members => (key, value.asRead) :: asReadMembers members

end

mutual

/-- Whether all the numbers in a value are doubles or integers. -/
def HasDoubles : Json → Prop
  | .float x => x.IsDouble
  | .array items => ItemsHaveDoubles items
  | .object members => MembersHaveDoubles members
  | _ => True

/-- Whether all the numbers in the items of an array are. -/
def ItemsHaveDoubles : List Json → Prop
  | [] => True
  | item :: items => item.HasDoubles ∧ ItemsHaveDoubles items

/-- Whether all the numbers in the members of an object are. -/
def MembersHaveDoubles : List (String × Json) → Prop
  | [] => True
  | (_, value) :: members => value.HasDoubles ∧ MembersHaveDoubles members

end

/-! ### Texts of items and members -/

/-- The texts of the items of an array with commas between them. -/
def itemsText (items : List Json) : List Char :=
  [','].intercalate ((renderItems items).map (·.toList))

/-- The texts of the members of an object with commas between them. -/
def membersText (members : List (String × Json)) : List Char :=
  [','].intercalate ((renderMembers members).map (·.toList))

theorem toList_render_array (items : List Json) :
    (render (.array items)).toList = '[' :: (itemsText items ++ [']']) := by
  rw [render, String.toList_append, String.toList_append, String.toList_intercalate]
  rfl

theorem toList_render_object (members : List (String × Json)) :
    (render (.object members)).toList = '\x7b' :: (membersText members ++ ['\x7d']) := by
  rw [render, String.toList_append, String.toList_append, String.toList_intercalate]
  rfl

theorem itemsText_singleton (item : Json) : itemsText [item] = item.render.toList := by
  simp [itemsText, renderItems]

theorem itemsText_cons (item next : Json) (items : List Json) :
    itemsText (item :: next :: items) = item.render.toList ++ ',' :: itemsText (next :: items) := by
  simp [itemsText, renderItems, List.intercalate_cons_cons]

/-- The text of a member of an object. -/
def memberText (key : String) (value : Json) : List Char :=
  (renderString key).toList ++ ':' :: value.render.toList

theorem membersText_singleton (key : String) (value : Json) :
    membersText [(key, value)] = memberText key value := by
  simp [membersText, renderMembers, memberText]

theorem membersText_cons (key : String) (value : Json) (next : String × Json)
    (members : List (String × Json)) :
    membersText ((key, value) :: next :: members) =
      memberText key value ++ ',' :: membersText (next :: members) := by
  obtain ⟨nextKey, nextValue⟩ := next
  simp [membersText, renderMembers, memberText, List.intercalate_cons_cons]

/-! ### Steps of the reader -/

theorem skipSpace_cons {c : Char} (h : isSpace c = false) (rest : List Char) :
    skipSpace (c :: rest) = c :: rest :=
  List.dropWhile_cons_of_neg (by simp [h])

theorem readValue?_quote (depth : Nat) (rest : List Char) :
    readValue? (depth + 1) ('"' :: rest) =
      (readString? [] rest).map fun (s, rest) => (.string s, rest) := by
  rw [readValue?, skipSpace_cons (by decide)]
  rfl

theorem readValue?_bracket (depth : Nat) (rest : List Char) :
    readValue? (depth + 1) ('[' :: rest) =
      match skipSpace rest with
      | ']' :: rest => some (.array [], rest)
      | rest => readItems? depth [] rest := by
  rw [readValue?, skipSpace_cons (by decide)]
  rfl

theorem readValue?_brace (depth : Nat) (rest : List Char) :
    readValue? (depth + 1) ('\x7b' :: rest) =
      match skipSpace rest with
      | '\x7d' :: rest => some (.object [], rest)
      | rest => readMembers? depth [] rest := by
  rw [readValue?, skipSpace_cons (by decide)]
  rfl

/-- A word begins with a character that is no blank and no mark. -/
theorem IsWord.exists_head {s : List Char} {value : Json} (h : IsWord s value) :
    ∃ c rest, s = c :: rest ∧ isSpace c = false ∧ ∀ e, Json.isTokenChar e = false → c ≠ e := by
  obtain ⟨c, rest, rfl⟩ := List.exists_cons_of_ne_nil h.ne_nil
  have hne : ∀ e, Json.isTokenChar e = false → c ≠ e := by
    rintro e he rfl
    rw [h.isTokenChar c List.mem_cons_self] at he
    cases he
  refine ⟨c, rest, rfl, ?_, hne⟩
  simp only [isSpace, Bool.or_eq_false_iff, beq_eq_false_iff_ne]
  exact ⟨⟨⟨hne _ (by decide), hne _ (by decide)⟩, hne _ (by decide)⟩, hne _ (by decide)⟩

/-- **A word is read back**, up to a character that does not belong to it. -/
theorem readValue?_word {s : List Char} {value : Json} (h : IsWord s value) (depth : Nat)
    {rest : List Char} (hrest : ∀ c ∈ rest.head?, isTokenChar c = false) :
    readValue? (depth + 1) (s ++ rest) = some (value, rest) := by
  obtain ⟨c, s, rfl, hspace, hne⟩ := h.exists_head
  rw [readValue?, List.cons_append, skipSpace_cons hspace]
  -- The first character is none of the marks that open a string, an array or an object.
  split
  · rename_i heq
    exact absurd (List.cons.inj heq).1 (hne _ (by decide))
  · rename_i heq
    exact absurd (List.cons.inj heq).1 (hne _ (by decide))
  · rename_i heq
    exact absurd (List.cons.inj heq).1 (hne _ (by decide))
  · rw [← List.cons_append, Text.takeWhile_append_of_head h.isTokenChar hrest,
      Text.dropWhile_append_of_head h.isTokenChar hrest, h.readWord, Option.map_some]

theorem isWord_float {x : Binary64} (h : x.IsDouble) :
    IsWord (render (.float x)).toList (asRead (.float x)) := by
  cases h with
  | nan => exact isWord_null
  | infinity negative =>
    cases negative with
    | true => exact isWord_null
    | false => exact isWord_null
  | finite negative dvd lt => exact isWord_finite (.finite negative dvd lt)

section Items

variable {depth : Nat} {s rest : List Char} {item : Json}

theorem readItems?_last (read : List Json) (h : readValue? depth s = some (item, ']' :: rest)) :
    readItems? (depth + 1) read s = some (.array (item :: read).reverse, rest) := by
  rw [readItems?, h]
  dsimp only
  rw [skipSpace_cons (by decide)]
  rfl

theorem readItems?_next (read : List Json) (h : readValue? depth s = some (item, ',' :: rest)) :
    readItems? (depth + 1) read s = readItems? depth (item :: read) rest := by
  rw [readItems?, h]
  dsimp only
  rw [skipSpace_cons (by decide)]
  rfl

end Items

theorem isTokenChar_bracket : isTokenChar ']' = false := by decide

theorem isTokenChar_brace : isTokenChar '\x7d' = false := by decide

theorem isTokenChar_comma : isTokenChar ',' = false := by decide

theorem length_lt_memberText (key : String) (value : Json) :
    value.render.toList.length < (memberText key value).length := by
  rw [memberText, List.length_append, List.length_cons]
  omega

section Members

variable {depth : Nat} {rest : List Char} {key : String} {value read : Json}

/-- The key of a member is read, and its value is next. -/
theorem exists_memberText_append (key : String) (value : Json) (tail : List Char) :
    ∃ body, memberText key value ++ tail = '"' :: body ∧
      readString? [] body = some (key, ':' :: (value.render.toList ++ tail)) := by
  obtain ⟨body, hbody, hread⟩ := readString?_renderString key
  refine ⟨body ++ ':' :: (value.render.toList ++ tail), ?_, hread _⟩
  simp [memberText, hbody]

theorem readMembers?_last (before : List (String × Json))
    (h : readValue? depth (value.render.toList ++ '\x7d' :: rest) = some (read, '\x7d' :: rest)) :
    readMembers? (depth + 1) before (memberText key value ++ '\x7d' :: rest) =
      some (.object ((key, read) :: before).reverse, rest) := by
  obtain ⟨body, hbody, hread⟩ := exists_memberText_append key value ('\x7d' :: rest)
  have hquote : isSpace '"' = false := by decide
  have hcolon : isSpace ':' = false := by decide
  have hbrace : isSpace '\x7d' = false := by decide
  rw [hbody, readMembers?]
  simp only [skipSpace_cons hquote, hread, skipSpace_cons hcolon, h, skipSpace_cons hbrace]

theorem readMembers?_next (before : List (String × Json))
    (h : readValue? depth (value.render.toList ++ ',' :: rest) = some (read, ',' :: rest)) :
    readMembers? (depth + 1) before (memberText key value ++ ',' :: rest) =
      readMembers? depth ((key, read) :: before) rest := by
  obtain ⟨body, hbody, hread⟩ := exists_memberText_append key value (',' :: rest)
  have hquote : isSpace '"' = false := by decide
  have hcolon : isSpace ':' = false := by decide
  have hcomma : isSpace ',' = false := by decide
  rw [hbody, readMembers?]
  simp only [skipSpace_cons hquote, hread, skipSpace_cons hcolon, h, skipSpace_cons hcomma]

end Members

/-! ### Round trips -/

/-- A text does not begin with a blank or with the end of an array. -/
theorem exists_head_render {x : Json} (h : x.HasDoubles) :
    ∃ c rest, x.render.toList = c :: rest ∧ isSpace c = false ∧ c ≠ ']' := by
  have hword : ∀ {value : Json}, IsWord x.render.toList value →
      ∃ c rest, x.render.toList = c :: rest ∧ isSpace c = false ∧ c ≠ ']' := by
    intro value hword
    obtain ⟨c, rest, heq, hspace, hne⟩ := hword.exists_head
    exact ⟨c, rest, heq, hspace, hne _ (by decide)⟩
  cases x with
  | null => exact hword isWord_null
  | bool b => exact hword (isWord_bool b)
  | int n => exact hword (isWord_int n)
  | float x => exact hword (isWord_float h)
  | string s =>
    obtain ⟨body, hbody, -⟩ := readString?_renderString s
    exact ⟨'"', body, by rw [render, hbody], by decide, by decide⟩
  | array items => exact ⟨'[', _, toList_render_array items, by decide, by decide⟩
  | object members => exact ⟨'\x7b', _, toList_render_object members, by decide, by decide⟩

/-- What it means that a value is read back: from its text, whatever follows that is no part of a
word, with as many levels as the text has characters. -/
def ReadsBack (x : Json) : Prop :=
  ∀ depth, x.render.toList.length < depth → ∀ rest : List Char,
    (∀ c ∈ rest.head?, isTokenChar c = false) →
    readValue? depth (x.render.toList ++ rest) = some (x.asRead, rest)

/-- The same for the items of an array, up to its closing bracket. -/
def ItemsReadBack (items : List Json) : Prop :=
  ∀ depth, (itemsText items).length + 1 < depth → ∀ (read : List Json) (rest : List Char),
    readItems? depth read (itemsText items ++ ']' :: rest) =
      some (.array (read.reverse ++ asReadItems items), rest)

/-- The same for the members of an object, up to its closing brace. -/
def MembersReadBack (members : List (String × Json)) : Prop :=
  ∀ depth, (membersText members).length + 1 < depth →
    ∀ (before : List (String × Json)) (rest : List Char),
    readMembers? depth before (membersText members ++ '\x7d' :: rest) =
      some (.object (before.reverse ++ asReadMembers members), rest)

theorem readsBack_of_isWord {x : Json} (h : IsWord x.render.toList x.asRead) : x.ReadsBack := by
  intro depth hdepth rest hrest
  obtain ⟨depth, rfl⟩ : ∃ d, depth = d + 1 := ⟨depth - 1, by omega⟩
  exact readValue?_word h depth hrest

theorem readsBack_string (s : String) : ReadsBack (.string s) := by
  intro depth hdepth rest _
  obtain ⟨depth, rfl⟩ : ∃ d, depth = d + 1 := ⟨depth - 1, by omega⟩
  obtain ⟨body, hbody, hread⟩ := readString?_renderString s
  rw [render, hbody, List.cons_append, readValue?_quote, hread]
  rfl

theorem itemsReadBack_singleton {item : Json} (h : item.ReadsBack) : ItemsReadBack [item] := by
  intro depth hdepth read rest
  obtain ⟨depth, rfl⟩ : ∃ d, depth = d + 1 := ⟨depth - 1, by omega⟩
  rw [itemsText_singleton] at hdepth ⊢
  have hitem := h depth (by omega) (']' :: rest) (by simp [isTokenChar_bracket])
  rw [readItems?_last read hitem]
  simp [asReadItems]

theorem itemsReadBack_cons {item next : Json} {items : List Json} (h : item.ReadsBack)
    (hnext : ItemsReadBack (next :: items)) : ItemsReadBack (item :: next :: items) := by
  intro depth hdepth read rest
  obtain ⟨depth, rfl⟩ : ∃ d, depth = d + 1 := ⟨depth - 1, by omega⟩
  rw [itemsText_cons, List.length_append, List.length_cons] at hdepth
  rw [itemsText_cons, List.append_assoc, List.cons_append]
  -- The item and its comma use up at least two characters, and one level is enough for them.
  have hitem := h depth (by omega) (',' :: (itemsText (next :: items) ++ ']' :: rest))
    (by simp [isTokenChar_comma])
  rw [readItems?_next read hitem, hnext depth (by omega)]
  simp [asReadItems]

theorem membersReadBack_singleton {key : String} {value : Json} (h : value.ReadsBack) :
    MembersReadBack [(key, value)] := by
  intro depth hdepth before rest
  obtain ⟨depth, rfl⟩ : ∃ d, depth = d + 1 := ⟨depth - 1, by omega⟩
  rw [membersText_singleton] at hdepth ⊢
  have hlength := length_lt_memberText key value
  have hvalue := h depth (by omega) ('\x7d' :: rest) (by simp [isTokenChar_brace])
  rw [readMembers?_last before hvalue]
  simp [asReadMembers]

theorem membersReadBack_cons {key : String} {value : Json} {next : String × Json}
    {members : List (String × Json)} (h : value.ReadsBack)
    (hnext : MembersReadBack (next :: members)) :
    MembersReadBack ((key, value) :: next :: members) := by
  intro depth hdepth before rest
  obtain ⟨depth, rfl⟩ : ∃ d, depth = d + 1 := ⟨depth - 1, by omega⟩
  rw [membersText_cons, List.length_append, List.length_cons] at hdepth
  rw [membersText_cons, List.append_assoc, List.cons_append]
  have hlength := length_lt_memberText key value
  have hvalue := h depth (by omega) (',' :: (membersText (next :: members) ++ '\x7d' :: rest))
    (by simp [isTokenChar_comma])
  rw [readMembers?_next before hvalue, hnext depth (by omega)]
  simp [asReadMembers]

/-- The text of an array with items does not look like that of the empty one. -/
theorem readsBack_array {items : List Json} (hdoubles : ItemsHaveDoubles items)
    (h : items ≠ [] → ItemsReadBack items) : ReadsBack (.array items) := by
  intro depth hdepth rest _
  obtain ⟨depth, rfl⟩ : ∃ d, depth = d + 1 := ⟨depth - 1, by omega⟩
  rw [toList_render_array, List.length_cons, List.length_append, List.length_singleton] at hdepth
  rw [toList_render_array, List.cons_append, readValue?_bracket, List.append_assoc,
    List.singleton_append]
  cases items with
  | nil => rfl
  | cons item items =>
    -- The text goes on with the text of the first item, not with the closing bracket.
    obtain ⟨c, after, htext, hspace, hne⟩ : ∃ c after, itemsText (item :: items) = c :: after ∧
        isSpace c = false ∧ c ≠ ']' := by
      obtain ⟨c, after, htext, hspace, hne⟩ := exists_head_render hdoubles.1
      cases items with
      | nil => exact ⟨c, after, by rw [itemsText_singleton, htext], hspace, hne⟩
      | cons next items =>
        exact ⟨c, _, by rw [itemsText_cons, htext, List.cons_append], hspace, hne⟩
    have hread := h (List.cons_ne_nil item items) depth (by omega) [] rest
    rw [htext, List.cons_append] at hread ⊢
    rw [skipSpace_cons hspace]
    split
    · rename_i heq
      exact absurd (List.cons.inj heq).1 hne
    · exact hread

theorem readsBack_object {members : List (String × Json)}
    (h : members ≠ [] → MembersReadBack members) : ReadsBack (.object members) := by
  intro depth hdepth rest _
  obtain ⟨depth, rfl⟩ : ∃ d, depth = d + 1 := ⟨depth - 1, by omega⟩
  rw [toList_render_object, List.length_cons, List.length_append, List.length_singleton] at hdepth
  rw [toList_render_object, List.cons_append, readValue?_brace, List.append_assoc,
    List.singleton_append]
  cases members with
  | nil => rfl
  | cons member members =>
    -- The text goes on with the quotation mark of the first key.
    obtain ⟨after, htext⟩ : ∃ after, membersText (member :: members) = '"' :: after := by
      obtain ⟨key, value⟩ := member
      obtain ⟨body, hbody, -⟩ := readString?_renderString key
      cases members with
      | nil => exact ⟨_, by rw [membersText_singleton, memberText, hbody, List.cons_append]⟩
      | cons next members =>
        exact ⟨_, by rw [membersText_cons, memberText, hbody, List.cons_append, List.cons_append]⟩
    have hread := h (List.cons_ne_nil member members) depth (by omega) [] rest
    rw [htext, List.cons_append] at hread ⊢
    rw [skipSpace_cons (by decide)]
    exact hread

mutual

/-- **A value is read back**, by recursion on the value. -/
theorem readsBack : ∀ x : Json, x.HasDoubles → x.ReadsBack
  | .null, _ => readsBack_of_isWord isWord_null
  | .bool b, _ => readsBack_of_isWord (isWord_bool b)
  | .int n, _ => readsBack_of_isWord (isWord_int n)
  | .float _, h => readsBack_of_isWord (isWord_float h)
  | .string s, _ => readsBack_string s
  | .array items, h => readsBack_array h (itemsReadBack items h)
  | .object members, h => readsBack_object (membersReadBack members h)

theorem itemsReadBack : ∀ items : List Json, ItemsHaveDoubles items → items ≠ [] →
    ItemsReadBack items
  | [], _, hne => absurd rfl hne
  | [item], h, _ => itemsReadBack_singleton (readsBack item h.1)
  | item :: next :: items, h, _ =>
    itemsReadBack_cons (readsBack item h.1)
      (itemsReadBack (next :: items) h.2 (List.cons_ne_nil next items))

theorem membersReadBack : ∀ members : List (String × Json), MembersHaveDoubles members →
    members ≠ [] → MembersReadBack members
  | [], _, hne => absurd rfl hne
  | [(_, value)], h, _ => membersReadBack_singleton (readsBack value h.1)
  | (_, value) :: next :: members, h, _ =>
    membersReadBack_cons (readsBack value h.1)
      (membersReadBack (next :: members) h.2 (List.cons_ne_nil next members))

end

/-- **A JSON text denotes the value that it was written for.** -/
theorem read?_render {x : Json} (h : x.HasDoubles) : read? x.render = some x.asRead := by
  have hlength : x.render.toList.length < x.render.length + 1 := by
    rw [String.length_toList]
    exact Nat.lt_succ_self _
  have hread := readsBack x h _ hlength [] (by simp)
  rw [List.append_nil] at hread
  rw [read?, hread]
  rfl

end CardHealth.Json
