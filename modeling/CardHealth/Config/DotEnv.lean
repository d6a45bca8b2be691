import CardHealth.Entries
import CardHealth.Text.Blank
import CardHealth.Text.Utf8

/-!
# Variable files

A variable file holds one assignment `NAME=value` a line, with comments, an optional `export`, and
values that may stand between quotes and then go over several lines.  A line that is no assignment
is passed over.  In a value, `${NAME}` stands for the value of an earlier assignment or of the
environment, and `${NAME:-text}` for the text where there is none.
-/

namespace CardHealth.Config.DotEnv

open Text (isSpacing)

/-! ### Lines -/

/-- Line breaks of any kind as LF. -/
def unifyBreaks : List Char → List Char
  | s => go [] s
where
  /-- Goes on after the characters `read`, the last one first. -/
  go (read : List Char) : List Char → List Char
    | '\r' :: '\n' :: rest => go ('\n' :: read) rest
    | '\r' :: rest => go ('\n' :: read) rest
    | c :: rest => go (c :: read) rest
    | [] => read.reverse

/-- White space that does not end a line. -/
def isLineSpace (c : Char) : Bool :=
  isSpacing c && c != '\n' && c != '\r'

/-- Drops the white space at the head of a line. -/
def skipLineSpace (s : List Char) : List Char :=
  s.dropWhile isLineSpace

/-- Whether a character does not end a line. -/
def isInLine (c : Char) : Bool :=
  c != '\n' && c != '\r'

/-- What follows the end of the current line. -/
def skipLine (s : List Char) : List Char :=
  (s.dropWhile isInLine).drop 1

/-! ### Values -/

/-- Reads the rest of a value up to the quote that closes it.  A backslash takes the character after
it along, so that a quote there does not close the value, unless no other one is left, and then the
last of them does.  `read` holds the characters before, the last one first, and `fallback` the value
that the last quote after a backslash would close. -/
def readQuoted? (quote : Char) (read : List Char) (fallback : Option (List Char × List Char)) :
    List Char → Option (List Char × List Char)
  | [] => fallback.map fun (read, rest) => (read.reverse, rest)
  | '\\' :: c :: rest =>
    let fallback := if c == quote then some ('\\' :: read, rest) else fallback
    readQuoted? quote (c :: '\\' :: read) fallback rest
  | c :: rest =>
    if c == quote then some (read.reverse, rest) else readQuoted? quote (c :: read) fallback rest

/-- The character that a character after a backslash stands for between double quotes. -/
def doubleEscape? (c : Char) : Option Char :=
  match c with
  | '\\' => some '\\'
  | '\'' => some '\''
  | '"' => some '"'
  | 'a' => some '\x07'
  | 'b' => some '\x08'
  | 'f' => some '\x0c'
  | 'n' => some '\n'
  | 'r' => some '\r'
  | 't' => some '\t'
  | 'v' => some '\x0b'
  | _ => none

/-- The character that a character after a backslash stands for between single quotes. -/
def singleEscape? (c : Char) : Option Char :=
  if c == '\\' || c == '\'' then some c else none

/-- Replaces the escapes of a quoted value; a backslash before any other character is kept. -/
def unescape (escape? : Char → Option Char) (read : List Char) : List Char → List Char
  | '\\' :: c :: rest =>
    match escape? c with
    | some d => unescape escape? (d :: read) rest
    | none => unescape escape? ('\\' :: read) (c :: rest)
  | c :: rest => unescape escape? (c :: read) rest
  | [] => read.reverse

/-- An unquoted value without the comment that white space and a hash mark begin. -/
def cutComment : List Char → List Char
  | [] => []
  | c :: rest =>
    if isSpacing c && (rest.dropWhile isSpacing).head? == some '#' then []
    else c :: cutComment rest

/-- Reads a value, and gives what follows it; nothing if its quotation is not closed. -/
def readValue? (s : List Char) : Option (List Char × List Char) :=
  match s with
  | '\'' :: rest =>
    (readQuoted? '\'' [] none rest).map fun (value, rest) => (unescape singleEscape? [] value, rest)
  | '"' :: rest =>
    (readQuoted? '"' [] none rest).map fun (value, rest) => (unescape doubleEscape? [] value, rest)
  | _ =>
    some (Text.dropTailWhile isSpacing (cutComment (s.takeWhile isInLine)), s.dropWhile isInLine)

/-! ### Assignments -/

/-- An assignment; a name may stand without a value. -/
structure Assignment where
  name : String
  value : Option String
  deriving DecidableEq, Repr

/-- Drops the word `export` and the white space after it. -/
def skipExport (s : List Char) : List Char :=
  let word := "export".toList
  if word.isPrefixOf s && ((s.drop word.length).head?.any isLineSpace) then
    skipLineSpace (s.drop word.length)
  else s

/-- What the beginning of a line names: nothing for a comment, a name, or neither. -/
inductive Name where
  | comment
  | name (name : List Char) (rest : List Char)
  | malformed

/-- A character of a name without quotes. -/
def isNameChar (c : Char) : Bool :=
  c != '=' && c != '#' && !isSpacing c

/-- Reads a name. -/
def readName (s : List Char) : Name :=
  match s with
  | '#' :: _ => .comment
  | '\'' :: rest =>
    match rest.takeWhile (· != '\''), rest.dropWhile (· != '\'') with
    | c :: name, _ :: rest => .name (c :: name) rest
    | _, _ => .malformed
  | _ =>
    match s.takeWhile isNameChar with
    | [] => .malformed
    | name => .name name (s.dropWhile isNameChar)

/-- Drops a comment with the white space before it. -/
def skipComment (s : List Char) : List Char :=
  match skipLineSpace s with
  | '#' :: rest => rest.dropWhile isInLine
  | _ => s

/-- What follows the end of a line, if only white space stands before it. -/
def endLine? (s : List Char) : Option (List Char) :=
  match skipLineSpace s with
  | [] => some []
  | c :: rest => if isInLine c then none else some rest

/-- Reads a line from its first character that is not white space, and gives what follows it.
Where a part of it cannot be read, the rest of the line is passed over. -/
def readLine (s : List Char) : Option Assignment × List Char :=
  let s := skipExport s
  match readName s with
  | .malformed => (none, skipLine s)
  | .comment => (none, skipLine s)
  | .name name rest =>
    let rest := skipLineSpace rest
    let value? : Option (Option (List Char) × List Char) :=
      match rest with
      | '=' :: after =>
        (readValue? (skipLineSpace after)).map fun (value, rest) => (some value, rest)
      | _ => some (none, rest)
    match value? with
    | none =>
      (none, skipLine (skipLineSpace (rest.drop 1)))
    | some (value, rest) =>
      let rest := skipComment rest
      match endLine? rest with
      | some after => (some ⟨String.ofList name, value.map String.ofList⟩, after)
      | none => (none, skipLine rest)

/-- Reads all lines onto the assignments before, the last one first.  Every line uses up a
character. -/
def readLinesOnto (read : List Assignment) (s : List Char) : List Assignment :=
  let line := s.dropWhile isSpacing
  if line.isEmpty then read.reverse
  else
    let (assignment, rest) := readLine line
    if rest.length < s.length then readLinesOnto (assignment.toList ++ read) rest
    else (assignment.toList ++ read).reverse
termination_by s.length

/-- The assignments of a file, in order. -/
def readLines (s : String) : List Assignment :=
  readLinesOnto [] (unifyBreaks s.toList)

/-! ### Expansion -/

/-- A piece of a value: a character, or a variable with the text for when it has no value. -/
inductive Piece where
  | char (c : Char)
  | variable (name : List Char) (default : List Char)
  deriving DecidableEq, Repr

/-- A variable in braces at the head of a text, after its opening brace, and what follows it. -/
def readVariable? (s : List Char) : Option (Piece × List Char) :=
  let isNamePart (c : Char) : Bool := c != '\x7d' && c != ':'
  let name := s.takeWhile isNamePart
  match s.dropWhile isNamePart with
  | '\x7d' :: rest => some (.variable name [], rest)
  | ':' :: '-' :: rest =>
    match rest.dropWhile (· != '\x7d') with
    | _ :: after => some (.variable name (rest.takeWhile (· != '\x7d')), after)
    | [] => none
  | _ => none

theorem length_le_of_readVariable {s rest : List Char} {piece : Piece}
    (h : readVariable? s = some (piece, rest)) : rest.length ≤ s.length := by
  have dropWhile_le (p : Char → Bool) (s : List Char) : (s.dropWhile p).length ≤ s.length :=
    (List.dropWhile_sublist p).length_le
  simp only [readVariable?] at h
  split at h
  · rename_i tail heq
    have := dropWhile_le (fun c => c != '\x7d' && c != ':') s
    rw [heq] at this
    cases h
    simp only [List.length_cons] at this
    omega
  · rename_i tail heq
    have h₁ := dropWhile_le (fun c => c != '\x7d' && c != ':') s
    rw [heq] at h₁
    simp only [List.length_cons] at h₁
    split at h
    · rename_i d after heq'
      have h₂ := dropWhile_le (· != '\x7d') tail
      rw [heq'] at h₂
      cases h
      simp only [List.length_cons] at h₂
      omega
    · cases h
  · cases h

/-- Cuts a value into pieces onto those before, the last one first. -/
def piecesOnto (read : List Piece) : List Char → List Piece
  | [] => read.reverse
  | c :: rest =>
    if c == '$' && rest.head? == some '\x7b' then
      match h : readVariable? (rest.drop 1) with
      | some (piece, after) =>
        have : after.length ≤ rest.length :=
          Nat.le_trans (length_le_of_readVariable h) (by simp)
        piecesOnto (piece :: read) after
      | none => piecesOnto (.char c :: read) rest
    else piecesOnto (.char c :: read) rest
termination_by s => s.length

/-- The text of a piece where variables have the given values. -/
def Piece.expand (values : String → Option String) : Piece → List Char
  | .char c => [c]
  | .variable name default =>
    match values (String.ofList name) with
    | some value => value.toList
    | none => default

/-- A value with its variables replaced. -/
def expand (values : String → Option String) (s : String) : String :=
  String.ofList ((piecesOnto [] s.toList).flatMap (Piece.expand values))

/-- The value of a variable: that of the last assignment before, which may be empty for want of a
value, or else that of the environment. -/
def lookup (environment : List (String × String)) (before : List (String × Option String))
    (name : String) : Option String :=
  match lastNamed? name before with
  | some value => some (value.getD "")
  | none => lastNamed? name environment

/-- The assignments with their variables replaced, in order. -/
def resolve (environment : List (String × String)) (assignments : List Assignment) :
    List (String × Option String) :=
  assignments.foldl (fun before assignment =>
    before ++
      [(assignment.name, assignment.value.map (expand (lookup environment before)))]) []

/-- The variables that a file assigns, in order. -/
def read (environment : List (String × String)) (file : Bytes) :
    Except Text.Utf8Error (List (String × Option String)) :=
  (Text.decodeUtf8 file).map fun s => resolve environment (readLines s)

end CardHealth.Config.DotEnv
