import CardHealth.Form.Error
import CardHealth.Form.HeaderValue
import CardHealth.Text.Charset

/-!
# Multipart forms

A multipart body is a delimiter, then parts divided by delimiters.  A delimiter is two hyphens and
the boundary, at the beginning or after a line break; it is followed by a line break before a part
and by two hyphens at the end of the body.  A part consists of header lines, an empty line and
data.  A part that the body ends in is dropped, and what follows the last delimiter is not read.
-/

namespace CardHealth.Form.Multipart

/-- The byte CR. -/
def cr : UInt8 := 13

/-- The byte LF. -/
def lf : UInt8 := 10

/-- The byte of a hyphen. -/
def hyphen : UInt8 := 45

/-! ### Header lines -/

/-- A byte that may stand in the name of a header. -/
def isTokenByte (b : UInt8) : Bool :=
  let c := Char.ofNat b.toNat
  c.isAlphanum || "!#$%&'*+-.^_\x60|~".toList.contains c

/-- What the bytes at the beginning of a header line are. -/
inductive HeaderLine where
  /-- The input ends within the line. -/
  | unfinished
  | malformed
  /-- The empty line after the headers, and what follows it. -/
  | blank (rest : Bytes)
  | field (name value : Bytes) (rest : Bytes)

/-- Reads the value of a header after its colon. -/
def readHeaderValue (name s : Bytes) : HeaderLine :=
  let s := s.dropWhile (· == 32)
  match s.dropWhile (· != cr) with
  | [] => .unfinished
  | [_] => .unfinished
  | _ :: next :: rest =>
    if next == lf then .field name (s.takeWhile (· != cr)) rest else .malformed

/-- Reads a header line. -/
def readHeaderLine : Bytes → HeaderLine
  | [] => .unfinished
  | b :: rest =>
    if b == cr then
      match rest with
      | [] => .unfinished
      | c :: rest => if c == lf then .blank rest else .malformed
    else
      match (b :: rest).dropWhile isTokenByte with
      | [] => .unfinished
      | c :: value =>
        if c == 58 && isTokenByte b then
          readHeaderValue ((b :: rest).takeWhile isTokenByte) value
        else .malformed

theorem length_dropWhile_le {α : Type} (p : α → Bool) (s : List α) :
    (s.dropWhile p).length ≤ s.length :=
  (List.dropWhile_sublist p).length_le

theorem length_lt_of_readHeaderValue {name s name' value rest : Bytes}
    (h : readHeaderValue name s = .field name' value rest) : rest.length < s.length := by
  have h₁ := length_dropWhile_le (· == (32 : UInt8)) s
  have h₂ := length_dropWhile_le (· != cr) (s.dropWhile (· == (32 : UInt8)))
  unfold readHeaderValue at h
  simp only at h
  split at h
  · cases h
  · cases h
  · rename_i next tail heq
    split at h
    · cases h
      rw [heq] at h₂
      simp only [List.length_cons] at h₂
      omega
    · cases h

/-- A header line uses up at least a byte. -/
theorem length_lt_of_readHeaderLine {s name value rest : Bytes}
    (h : readHeaderLine s = .field name value rest) : rest.length < s.length := by
  cases s with
  | nil => simp [readHeaderLine] at h
  | cons b s =>
    have h₁ := length_dropWhile_le isTokenByte (b :: s)
    simp only [readHeaderLine] at h
    split at h
    · split at h
      · cases h
      · split at h <;> cases h
    · split at h
      · cases h
      · rename_i c tail heq
        split at h
        · have h₂ := length_lt_of_readHeaderValue h
          rw [heq] at h₁
          simp only [List.length_cons] at h₁ ⊢
          omega
        · cases h

/-- The headers of a part. -/
inductive HeaderBlock where
  | unfinished
  | malformed
  /-- The value of the last content disposition, and the bytes after the headers. -/
  | complete (disposition : Bytes) (rest : Bytes)

/-- Reads the headers of a part; `disposition` is that of the headers before. -/
def readHeaders (disposition s : Bytes) : HeaderBlock :=
  match h : readHeaderLine s with
  | .unfinished => .unfinished
  | .malformed => .malformed
  | .blank rest => .complete disposition rest
  | .field name value rest =>
    let isDisposition :=
      (Bytes.toLatin1 name).map Text.lowerAsciiChar == "content-disposition".toList
    have := length_lt_of_readHeaderLine h
    readHeaders (if isDisposition then value else disposition) rest
termination_by s.length

/-! ### Data -/

/-- How the data of a part end. -/
inductive DataEnd where
  /-- The body ends first. -/
  | unfinished (data : Bytes)
  /-- Another part follows. -/
  | next (data rest : Bytes)
  /-- The body is closed. -/
  | last (data : Bytes)

/-- Reads data up to a delimiter, which has to be followed by a line break or two hyphens; `read`
holds the bytes before, the last one first. -/
def readData (delimiter read : Bytes) : Bytes → DataEnd
  | [] => .unfinished read.reverse
  | b :: rest =>
    if delimiter.isPrefixOf (b :: rest) then
      match (b :: rest).drop delimiter.length with
      | 13 :: 10 :: after => .next read.reverse after
      | 45 :: 45 :: _ => .last read.reverse
      | _ => readData delimiter (b :: read) rest
    else readData delimiter (b :: read) rest

/-- Data are followed by less than was there before them. -/
theorem length_le_of_readData {delimiter read s data rest : Bytes}
    (h : readData delimiter read s = .next data rest) : rest.length ≤ s.length := by
  induction s generalizing read with
  | nil => simp [readData] at h
  | cons b s ih =>
    simp only [readData] at h
    split at h
    · split at h
      · rename_i after heq
        cases h
        have := congrArg List.length heq
        simp only [List.length_drop, List.length_cons] at this
        simp only [List.length_cons]
        omega
      · cases h
      · exact Nat.le_succ_of_le (ih h)
    · exact Nat.le_succ_of_le (ih h)

/-- The number of bytes at the end of unfinished data that may be the beginning of a delimiter. -/
def pendingLength (delimiter data : Bytes) : Nat :=
  let marks := [delimiter ++ [cr], delimiter ++ [hyphen]]
  let tail := data.drop (data.length - (delimiter.length + 1))
  let isPending (k : Nat) : Bool := marks.any fun mark => (mark.take k).isSuffixOf tail
  ((List.range (delimiter.length + 2)).reverse.find? isPending).getD 0

/-! ### Parts -/

/-- A field of a multipart form: a text, or a file that is not kept. -/
structure Part where
  name : String
  text : Option String
  deriving DecidableEq, Repr

/-- The numbers of text fields and of files so far. -/
structure Count where
  fields : Nat
  files : Nat

/-- What the headers of a part say: the name of its field, and whether it is a file. -/
def readDisposition (charset : Text.Charset) (disposition : Bytes) (count : Count) :
    Except Error (String × Bool × Count) :=
  match HeaderValue.read (String.ofList (Bytes.toLatin1 disposition)) with
  | .error e => .error e
  | .ok header =>
    match header.parameter? "name" with
    | none => .error .unnamedPart
    | some name =>
      let name := charset.decode (Bytes.ofLatin1 name)
      if (header.parameter? "filename").isSome then
        if count.files + 1 > maxFields then .error .tooManyFiles
        else .ok (name, true, { count with files := count.files + 1 })
      else if count.fields + 1 > maxFields then .error .tooManyFields
      else .ok (name, false, { count with fields := count.fields + 1 })

/-- The part with a name and its data. -/
def makePart (charset : Text.Charset) (name : String) (isFile : Bool) (data : Bytes) : Part :=
  ⟨name, if isFile then none else some (charset.decode data)⟩

/-- Whether data are too long for a text field. -/
def isOversized (isFile : Bool) (length : Nat) : Bool :=
  !isFile && length > maxPartSize

/-- A header block uses up bytes. -/
theorem length_le_of_readHeaders {disposition s disposition' rest : Bytes}
    (h : readHeaders disposition s = .complete disposition' rest) : rest.length < s.length := by
  unfold readHeaders at h
  split at h
  · cases h
  · cases h
  · rename_i rest' heq
    cases h
    cases s with
    | nil => simp [readHeaderLine] at heq
    | cons b s =>
      simp only [readHeaderLine] at heq
      split at heq
      · split at heq
        · cases heq
        · split at heq
          · cases heq
            simp only [List.length_cons]
            omega
          · cases heq
      · split at heq
        · cases heq
        · split at heq
          · unfold readHeaderValue at heq
            simp only at heq
            split at heq
            · cases heq
            · cases heq
            · split at heq <;> cases heq
          · cases heq
  · rename_i name value rest' heq
    have h₁ := length_lt_of_readHeaderLine heq
    have h₂ := length_le_of_readHeaders h
    omega
termination_by s.length
decreasing_by exact length_lt_of_readHeaderLine (by assumption)

/-- Reads parts; `read` holds those before, the last one first. -/
def readParts (charset : Text.Charset) (delimiter : Bytes) (count : Count) (read : List Part)
    (s : Bytes) : Except Error (List Part) :=
  match hs : readHeaders [] s with
  | .unfinished => .ok read.reverse
  | .malformed => .error .malformed
  | .complete disposition rest =>
    match readDisposition charset disposition count with
    | .error e => .error e
    | .ok (name, isFile, count) =>
      match hd : readData delimiter [] rest with
      | .unfinished data =>
        if isOversized isFile (data.length - pendingLength delimiter data) then
          .error .oversizedPart
        else .ok read.reverse
      | .last data =>
        if isOversized isFile data.length then .error .oversizedPart
        else .ok (makePart charset name isFile data :: read).reverse
      | .next data rest' =>
        if isOversized isFile data.length then .error .oversizedPart
        else
          have := length_le_of_readHeaders hs
          have := length_le_of_readData hd
          readParts charset delimiter count (makePart charset name isFile data :: read) rest'
termination_by s.length

/-- Reads the first delimiter and the parts after it.  A body that ends within the delimiter has no
parts. -/
def readBody (charset : Text.Charset) (boundary s : Bytes) : Except Error (List Part) :=
  let opening := hyphen :: hyphen :: boundary
  let s := s.dropWhile fun b => b == cr || b == lf
  if opening.isPrefixOf s then
    match s.drop opening.length with
    | [] => .ok []
    | b :: rest =>
      if b == cr || b == hyphen then
        match rest with
        | [] => .ok []
        | c :: rest =>
          if b == cr && c == lf then
            readParts charset (cr :: lf :: opening) ⟨0, 0⟩ [] rest
          else if b == hyphen && c == hyphen then .ok []
          else .error .malformed
      else .error .malformed
  else if s.isPrefixOf opening then .ok []
  else .error .malformed

/-- Reads the body of a form whose content type has the given parameters. -/
def read (contentType : HeaderValue) (body : Bytes) : Except Error (List Part) :=
  match contentType.parameter? "boundary" with
  | none => .error .missingBoundary
  | some boundary =>
    let charset := Text.Charset.named ((contentType.parameter? "charset").getD "utf-8")
    readBody charset (Bytes.ofLatin1 boundary) body

end CardHealth.Form.Multipart
