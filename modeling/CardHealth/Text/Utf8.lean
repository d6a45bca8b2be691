import CardHealth.Bytes
import CardHealth.Text.Quoted

/-!
# UTF-8

Encoding of texts, and two ways to decode: `decodeUtf8` refuses ill-formed bytes and says where
they stand, `decodeUtf8Lossy` puts one replacement character for each ill-formed piece.  Both read
the list `utf8Pieces`, which cuts the bytes into characters and defects; a defect is as long as the
longest prefix of a well-formed sequence found there, and at least one byte.
-/

namespace CardHealth.Text

/-- The UTF-8 bytes of a text. -/
def encodeUtf8 (s : String) : Bytes :=
  s.toList.flatMap String.utf8EncodeChar

/-- Why a run of bytes is not the encoding of a character. -/
inductive Utf8Defect where
  /-- The byte begins no sequence. -/
  | startByte
  /-- The sequence goes on with a byte that may not stand there. -/
  | continuationByte
  /-- The input ends inside the sequence. -/
  | endOfData
  deriving DecidableEq, Repr

/-- A piece of a byte string: the encoding of a character, or a defect with its bytes. -/
inductive Utf8Piece where
  | char (c : Char)
  | defect (reason : Utf8Defect) (bytes : Bytes)
  deriving DecidableEq, Repr

/-- The payload bits of a first byte and the bounds of each byte that has to follow it; nothing for
a byte that begins no sequence. -/
def utf8Start? (b : UInt8) : Option (Nat × List (UInt8 × UInt8)) :=
  if b < 0x80 then some (b.toNat, [])
  else if b < 0xC2 then none
  else if b < 0xE0 then some (b.toNat % 0x20, [(0x80, 0xBF)])
  else if b == 0xE0 then some (0, [(0xA0, 0xBF), (0x80, 0xBF)])
  else if b == 0xED then some (0xD, [(0x80, 0x9F), (0x80, 0xBF)])
  else if b < 0xF0 then some (b.toNat % 0x10, [(0x80, 0xBF), (0x80, 0xBF)])
  else if b == 0xF0 then some (0, [(0x90, 0xBF), (0x80, 0xBF), (0x80, 0xBF)])
  else if b < 0xF4 then some (b.toNat % 8, [(0x80, 0xBF), (0x80, 0xBF), (0x80, 0xBF)])
  else if b == 0xF4 then some (4, [(0x80, 0x8F), (0x80, 0xBF), (0x80, 0xBF)])
  else none

/-- Reads the bytes that have to follow, collecting six bits from each.  `read` holds the bytes of
the sequence so far, the last one first; the second result is the rest of the input. -/
def utf8Follow (read : Bytes) (bits : Nat) : List (UInt8 × UInt8) → Bytes → Utf8Piece × Bytes
  | [], rest => (.char (Char.ofNat bits), rest)
  | _ :: _, [] => (.defect .endOfData read.reverse, [])
  | (low, high) :: bounds, b :: rest =>
    if low ≤ b ∧ b ≤ high then
      utf8Follow (b :: read) (bits * 0x40 + b.toNat % 0x40) bounds rest
    else (.defect .continuationByte read.reverse, b :: rest)

/-- The first piece of the byte string `b :: rest`, and what comes after it. -/
def utf8Piece (b : UInt8) (rest : Bytes) : Utf8Piece × Bytes :=
  match utf8Start? b with
  | none => (.defect .startByte [b], rest)
  | some (bits, bounds) => utf8Follow [b] bits bounds rest

theorem length_utf8Follow_le (read : Bytes) (bits : Nat) (bounds : List (UInt8 × UInt8))
    (rest : Bytes) : (utf8Follow read bits bounds rest).2.length ≤ rest.length := by
  induction bounds generalizing read bits rest with
  | nil => simp [utf8Follow]
  | cons bound bounds ih =>
    cases rest with
    | nil => simp [utf8Follow]
    | cons b rest =>
      simp only [utf8Follow]
      split
      · exact Nat.le_succ_of_le (ih ..)
      · simp

theorem length_utf8Piece_le (b : UInt8) (rest : Bytes) :
    (utf8Piece b rest).2.length ≤ rest.length := by
  unfold utf8Piece
  split
  · simp
  · exact length_utf8Follow_le ..

/-- Puts the pieces of a byte string, the last one first, before `acc`. -/
def utf8PiecesOnto (acc : List Utf8Piece) : Bytes → List Utf8Piece
  | [] => acc
  | b :: rest => utf8PiecesOnto ((utf8Piece b rest).1 :: acc) (utf8Piece b rest).2
termination_by s => s.length
decreasing_by exact Nat.lt_succ_of_le (length_utf8Piece_le b rest)

/-- A byte string cut into characters and defects. -/
def utf8Pieces (b : Bytes) : List Utf8Piece :=
  (utf8PiecesOnto [] b).reverse

/-- The character of a piece; the replacement character U+FFFD for a defect. -/
def Utf8Piece.toChar : Utf8Piece → Char
  | .char c => c
  | .defect _ _ => '\uFFFD'

/-- The number of bytes of a piece. -/
def Utf8Piece.size : Utf8Piece → Nat
  | .char c => c.utf8Size
  | .defect _ bytes => bytes.length

/-- Whether a piece is a character. -/
def Utf8Piece.isChar : Utf8Piece → Bool
  | .char _ => true
  | .defect _ _ => false

/-- Decodes bytes, with one replacement character for each defect. -/
def decodeUtf8Lossy (b : Bytes) : List Char :=
  (utf8Pieces b).map Utf8Piece.toChar

/-- The first defect of a byte string: its reason, its place and its bytes. -/
structure Utf8Error where
  reason : Utf8Defect
  position : Nat
  bytes : Bytes
  deriving DecidableEq, Repr

/-- Decodes a byte string if it is well-formed. -/
def decodeUtf8 (b : Bytes) : Except Utf8Error String :=
  let pieces := utf8Pieces b
  match pieces.find? fun piece => !piece.isChar with
  | some (.defect reason bytes) =>
    let position := (pieces.takeWhile Utf8Piece.isChar).foldl (fun n piece => n + piece.size) 0
    .error ⟨reason, position, bytes⟩
  | _ => .ok (String.ofList (pieces.map Utf8Piece.toChar))

/-- The decoded text of a well-formed byte string. -/
def decodeUtf8? (b : Bytes) : Option String :=
  match decodeUtf8 b with
  | .ok s => some s
  | .error _ => none

/-- The words for a defect. -/
def Utf8Defect.message : Utf8Defect → String
  | .startByte => "invalid start byte"
  | .continuationByte => "invalid continuation byte"
  | .endOfData => "unexpected end of data"

/-- The message about ill-formed bytes: a lone byte is shown, several are only located. -/
def Utf8Error.message (e : Utf8Error) : String :=
  let place :=
    match e.bytes with
    | [b] => s!"byte 0x{String.ofList (hexDigits 2 b.toNat)} in position {e.position}"
    | _ => s!"bytes in position {e.position}-{e.position + e.bytes.length - 1}"
  s!"'utf-8' codec can't decode {place}: {e.reason.message}"

end CardHealth.Text
