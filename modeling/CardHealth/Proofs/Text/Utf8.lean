import CardHealth.Text.Utf8
import Mathlib.Data.List.Basic

/-!
# Decoding what was encoded

The pieces of an encoded text are its characters (`utf8Pieces_encodeUtf8`), so that both decoders
give the text back: `decodeUtf8Lossy_encodeUtf8` and `decodeUtf8?_encodeUtf8`.  One character is
read back by `utf8Piece_utf8EncodeChar`, with a case for each length; a first byte bounds the second
one just so that the code points below the length and the surrogates are left out.
-/

namespace CardHealth.Text

/-! ### First bytes -/

theorem utf8Start?_one : ∀ n < 128, utf8Start? (UInt8.ofNat n) = some (n, []) := by
  decide

theorem utf8Start?_two :
    ∀ n < 30, utf8Start? (UInt8.ofNat (n + 194)) = some (n + 2, [(0x80, 0xBF)]) := by
  decide

theorem utf8Start?_three :
    ∀ n < 16, utf8Start? (UInt8.ofNat (n + 224)) =
      some (n, [(if n = 0 then 0xA0 else 0x80, if n = 13 then 0x9F else 0xBF), (0x80, 0xBF)]) := by
  decide

theorem utf8Start?_four :
    ∀ n < 5, utf8Start? (UInt8.ofNat (n + 240)) =
      some (n, [(if n = 0 then 0x90 else 0x80, if n = 4 then 0x8F else 0xBF), (0x80, 0xBF),
        (0x80, 0xBF)]) := by
  decide

/-! ### Bytes that follow -/

/-- A byte that follows adds its six bits. -/
theorem utf8Follow_cons {read : Bytes} {bits n : Nat} {low high : UInt8}
    {bounds : List (UInt8 × UInt8)} {rest : Bytes} (hn : n < 64) (hlow : low.toNat ≤ n + 128)
    (hhigh : n + 128 ≤ high.toNat) :
    utf8Follow read bits ((low, high) :: bounds) (UInt8.ofNat (n + 128) :: rest) =
      utf8Follow (UInt8.ofNat (n + 128) :: read) (bits * 64 + n) bounds rest := by
  have hbyte : (UInt8.ofNat (n + 128)).toNat = n + 128 := by
    simp [Nat.mod_eq_of_lt (show n + 128 < 256 by omega)]
  rw [utf8Follow, if_pos, hbyte]
  · congr 1
    omega
  · simp only [UInt8.le_iff_toNat_le, hbyte]
    exact ⟨hlow, hhigh⟩

/-- A byte that follows where nothing narrows the bounds. -/
theorem utf8Follow_cons_tail {read : Bytes} {bits n : Nat} {bounds : List (UInt8 × UInt8)}
    {rest : Bytes} (hn : n < 64) :
    utf8Follow read bits ((0x80, 0xBF) :: bounds) (UInt8.ofNat (n + 128) :: rest) =
      utf8Follow (UInt8.ofNat (n + 128) :: read) (bits * 64 + n) bounds rest :=
  utf8Follow_cons hn (Nat.le_add_left _ _) (by
    rw [show (0xBF : UInt8).toNat = 191 from rfl]
    omega)

/-! ### Characters -/

/-- The code points of characters: those below the surrogates, and those above them. -/
theorem val_toNat_lt (c : Char) :
    c.val.toNat < 0xD800 ∨ 0xDFFF < c.val.toNat ∧ c.val.toNat < 0x110000 :=
  c.valid

/-- **A character is read back**, whatever comes after it. -/
theorem utf8Piece_utf8EncodeChar (c : Char) (rest : Bytes) :
    ∃ b tail, String.utf8EncodeChar c = b :: tail ∧
      utf8Piece b (tail ++ rest) = (.char c, rest) := by
  have hvalid := val_toNat_lt c
  have hchar : ∀ n, n = c.val.toNat → Char.ofNat n = c := by
    rintro n rfl
    exact Char.ofNat_toNat c
  fun_cases String.utf8EncodeChar c with
  | case1 v h1 =>
    refine ⟨_, _, rfl, ?_⟩
    rw [utf8Piece, utf8Start?_one v (by omega)]
    dsimp only [List.nil_append]
    rw [utf8Follow, hchar v rfl]
  | case2 v h1 h2 =>
    refine ⟨_, _, rfl, ?_⟩
    -- A lead byte below `0xC2` would begin a code point of one byte.
    obtain ⟨n, hlead⟩ : ∃ n, v / 64 % 32 = n + 2 := ⟨v / 64 % 32 - 2, by omega⟩
    rw [utf8Piece, hlead, utf8Start?_two n (by omega)]
    dsimp only [List.cons_append, List.nil_append]
    rw [utf8Follow_cons_tail (by omega), utf8Follow, hchar _ (by omega)]
  | case3 v h1 h2 h3 =>
    refine ⟨_, _, rfl, ?_⟩
    rw [utf8Piece, utf8Start?_three _ (by omega)]
    dsimp only [List.cons_append, List.nil_append]
    rw [utf8Follow_cons (by omega), utf8Follow_cons_tail (by omega), utf8Follow,
      hchar _ (by omega)]
    · split_ifs
      · show 160 ≤ _
        omega
      · show 128 ≤ _
        omega
    · split_ifs
      · show _ ≤ 159
        omega
      · show _ ≤ 191
        omega
  | case4 v h1 h2 h3 =>
    refine ⟨_, _, rfl, ?_⟩
    have hlead : v / 262144 % 8 = v / 262144 := by omega
    rw [utf8Piece, hlead, utf8Start?_four _ (by omega)]
    dsimp only [List.cons_append, List.nil_append]
    rw [utf8Follow_cons (by omega), utf8Follow_cons_tail (by omega),
      utf8Follow_cons_tail (by omega), utf8Follow, hchar _ (by omega)]
    · split_ifs
      · show 144 ≤ _
        omega
      · show 128 ≤ _
        omega
    · split_ifs
      · show _ ≤ 143
        omega
      · show _ ≤ 191
        omega

/-! ### Texts -/

theorem utf8PiecesOnto_flatMap (acc : List Utf8Piece) (s : List Char) :
    utf8PiecesOnto acc (s.flatMap String.utf8EncodeChar) = (s.map .char).reverse ++ acc := by
  induction s generalizing acc with
  | nil => rw [List.flatMap_nil, utf8PiecesOnto, List.map_nil, List.reverse_nil, List.nil_append]
  | cons c s ih =>
    obtain ⟨b, tail, hbytes, hpiece⟩ :=
      utf8Piece_utf8EncodeChar c (s.flatMap String.utf8EncodeChar)
    rw [List.flatMap_cons, hbytes, List.cons_append, utf8PiecesOnto, hpiece, ih]
    simp

/-- **The pieces of an encoded text are its characters**. -/
theorem utf8Pieces_encodeUtf8 (s : String) : utf8Pieces (encodeUtf8 s) = s.toList.map .char := by
  rw [utf8Pieces, encodeUtf8, utf8PiecesOnto_flatMap, List.append_nil, List.reverse_reverse]

theorem decodeUtf8Lossy_encodeUtf8 (s : String) : decodeUtf8Lossy (encodeUtf8 s) = s.toList := by
  rw [decodeUtf8Lossy, utf8Pieces_encodeUtf8, List.map_map]
  exact List.map_id _

theorem decodeUtf8_encodeUtf8 (s : String) : decodeUtf8 (encodeUtf8 s) = .ok s := by
  have hdefect : (s.toList.map Utf8Piece.char).find? (fun piece => !piece.isChar) = none := by
    simp [Utf8Piece.isChar]
  have htext : String.ofList ((s.toList.map Utf8Piece.char).map Utf8Piece.toChar) = s := by
    rw [List.map_map, show Utf8Piece.toChar ∘ Utf8Piece.char = id from rfl, List.map_id,
      String.ofList_toList]
  rw [decodeUtf8, utf8Pieces_encodeUtf8]
  simp only [hdefect, htext]

theorem decodeUtf8?_encodeUtf8 (s : String) : decodeUtf8? (encodeUtf8 s) = some s := by
  rw [decodeUtf8?, decodeUtf8_encodeUtf8]

/-! ### ASCII bytes -/

/-- The only ASCII byte of a character is the character itself. -/
theorem eq_ofNat_of_mem_utf8EncodeChar {b : UInt8} (hb : b.toNat < 128) {c : Char}
    (h : b ∈ String.utf8EncodeChar c) : c = Char.ofNat b.toNat := by
  -- Each byte of a longer encoding is at least 128.
  have hlong : ∀ n < 128, b ≠ UInt8.ofNat (n + 128) := by
    rintro n hn rfl
    rw [UInt8.toNat_ofNat', Nat.mod_eq_of_lt (by omega)] at hb
    omega
  revert h
  fun_cases String.utf8EncodeChar c with
  | case1 v h1 =>
    intro h
    have hbyte : b.toNat = v := by
      rw [List.mem_singleton.mp h, UInt8.toNat_ofNat', Nat.mod_eq_of_lt (by omega)]
    rw [hbyte]
    exact (Char.ofNat_toNat c).symm
  | case2 v h1 h2 =>
    simp only [List.mem_cons, List.not_mem_nil, or_false]
    rintro (h | h)
    · exact absurd h (hlong (v / 64 % 32 + 64) (by omega))
    · exact absurd h (hlong (v % 64) (by omega))
  | case3 v h1 h2 h3 =>
    simp only [List.mem_cons, List.not_mem_nil, or_false]
    rintro (h | h | h)
    · exact absurd h (hlong (v / 4096 % 16 + 96) (by omega))
    · exact absurd h (hlong (v / 64 % 64) (by omega))
    · exact absurd h (hlong (v % 64) (by omega))
  | case4 v h1 h2 h3 =>
    simp only [List.mem_cons, List.not_mem_nil, or_false]
    rintro (h | h | h | h)
    · exact absurd h (hlong (v / 262144 % 8 + 112) (by omega))
    · exact absurd h (hlong (v / 4096 % 64) (by omega))
    · exact absurd h (hlong (v / 64 % 64) (by omega))
    · exact absurd h (hlong (v % 64) (by omega))

/-- An ASCII byte of an encoded text is one of its characters. -/
theorem ofNat_mem_of_mem_encodeUtf8 {b : UInt8} (hb : b.toNat < 128) {s : String}
    (h : b ∈ encodeUtf8 s) : Char.ofNat b.toNat ∈ s.toList := by
  obtain ⟨c, hc, hbyte⟩ := List.mem_flatMap.mp h
  exact eq_ofNat_of_mem_utf8EncodeChar hb hbyte ▸ hc

end CardHealth.Text
