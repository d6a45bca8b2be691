import CardHealth.Bytes

/-!
# Base64

The standard alphabet with padding.  `Base64.encode` writes three bytes as four characters;
`Base64.decode` reads the strict form and gives back the bytes; `Base64.decodeLenient` also passes
over characters outside the alphabet, as mail readers do.
-/

namespace CardHealth.Base64

/-- The character for a value below 64. -/
def digit (n : Nat) : Char :=
  if n < 26 then Char.ofNat (65 + n)
  else if n < 52 then Char.ofNat (71 + n)
  else if n < 62 then Char.ofNat (n - 4)
  else if n == 62 then '+'
  else '/'

/-- The value of a character of the alphabet. -/
def digit? (c : Char) : Option Nat :=
  if 'A' ≤ c ∧ c ≤ 'Z' then some (c.toNat - 65)
  else if 'a' ≤ c ∧ c ≤ 'z' then some (c.toNat - 71)
  else if '0' ≤ c ∧ c ≤ '9' then some (c.toNat + 4)
  else if c == '+' then some 62
  else if c == '/' then some 63
  else none

/-! ### Encoding -/

/-- Puts the encoding of a byte string, the last character first, before `acc`. -/
def encodeOnto (acc : List Char) : Bytes → List Char
  | [] => acc
  | [a] => '=' :: '=' :: digit (a.toNat % 4 * 16) :: digit (a.toNat / 4) :: acc
  | [a, b] =>
    '=' :: digit (b.toNat % 16 * 4) :: digit (a.toNat % 4 * 16 + b.toNat / 16) ::
      digit (a.toNat / 4) :: acc
  | a :: b :: c :: rest =>
    encodeOnto
      (digit (c.toNat % 64) :: digit (b.toNat % 16 * 4 + c.toNat / 64) ::
        digit (a.toNat % 4 * 16 + b.toNat / 16) :: digit (a.toNat / 4) :: acc)
      rest

/-- The padded encoding of a byte string. -/
def encode (b : Bytes) : String :=
  String.ofList (encodeOnto [] b).reverse

/-! ### Strict decoding -/

/-- Reads the encoding of a byte string onto the bytes read before, the last byte first.  Only the
encodings of `encode` are accepted: the bits that padding leaves over are zero. -/
def decodeOnto? (acc : Bytes) : List Char → Option Bytes
  | [] => some acc
  | [p, q, '=', '='] => do
    let p ← digit? p
    let q ← digit? q
    if q % 16 == 0 then some (UInt8.ofNat (p * 4 + q / 16) :: acc) else none
  | [p, q, r, '='] => do
    let p ← digit? p
    let q ← digit? q
    let r ← digit? r
    if r % 4 == 0 then
      some (UInt8.ofNat (q % 16 * 16 + r / 4) :: UInt8.ofNat (p * 4 + q / 16) :: acc)
    else none
  | p :: q :: r :: s :: rest =>
    match digit? p, digit? q, digit? r, digit? s with
    | some p, some q, some r, some s =>
      decodeOnto?
        (UInt8.ofNat (r % 4 * 64 + s) :: UInt8.ofNat (q % 16 * 16 + r / 4) ::
          UInt8.ofNat (p * 4 + q / 16) :: acc)
        rest
    | _, _, _, _ => none
  | _ => none

/-- The bytes whose encoding a text is. -/
def decode? (s : String) : Option Bytes :=
  (decodeOnto? [] s.toList).map List.reverse

/-! ### Lenient decoding -/

/-- Why a text cannot be decoded, even leniently. -/
inductive Error where
  /-- A single character of the alphabet is left over: `digits` of them stand before the padding. -/
  | lonelyDigit (digits : Nat)
  /-- The last group of four is not filled up. -/
  | missingPadding
  /-- The text has a character outside ASCII. -/
  | nonAscii
  deriving DecidableEq, Repr

/-- The message about a text that cannot be decoded. -/
def Error.message : Error → String
  | .lonelyDigit digits =>
    s!"Invalid base64-encoded string: number of data characters ({digits}) cannot be 1 more " ++
      "than a multiple of 4"
  | .missingPadding => "Incorrect padding"
  | .nonAscii => "string argument should contain only ASCII characters"

/-- What lenient decoding has read: the bytes, the last one first; the place in the group of four;
the bits of the group that make no byte yet; and the number of padding marks since the last
digit. -/
structure Reading where
  bytes : Bytes
  place : Nat
  bits : Nat
  pads : Nat
  deriving DecidableEq, Repr

/-- Whether padding has closed the last group; what follows is not read. -/
def Reading.isClosed (r : Reading) : Bool :=
  r.place ≥ 2 && r.place + r.pads ≥ 4

/-- Reads one character; a character outside the alphabet is passed over. -/
def Reading.next (r : Reading) (c : Char) : Reading :=
  if r.isClosed then r
  else if c == '=' then { r with pads := r.pads + (if r.place ≥ 2 then 1 else 0) }
  else
    match digit? c, r.place with
    | none, _ => r
    | some d, 0 => { r with place := 1, bits := d, pads := 0 }
    | some d, 1 =>
      ⟨UInt8.ofNat (r.bits * 4 + d / 16) :: r.bytes, 2, d % 16, 0⟩
    | some d, 2 =>
      ⟨UInt8.ofNat (r.bits * 16 + d / 4) :: r.bytes, 3, d % 4, 0⟩
    | some d, _ => ⟨UInt8.ofNat (r.bits * 64 + d) :: r.bytes, 0, 0, 0⟩

/-- Decodes an ASCII text and passes over every character outside the alphabet. -/
def decodeLenient (s : String) : Except Error Bytes :=
  let r := s.toList.foldl Reading.next ⟨[], 0, 0, 0⟩
  if s.toList.any fun c => c.toNat ≥ 0x80 then .error .nonAscii
  else if r.isClosed || r.place == 0 then .ok r.bytes.reverse
  else if r.place == 1 then .error (.lonelyDigit (r.bytes.length / 3 * 4 + 1))
  else .error .missingPadding

end CardHealth.Base64
