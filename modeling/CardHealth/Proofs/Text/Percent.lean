import CardHealth.Proofs.Bytes
import CardHealth.Proofs.Text.Utf8
import CardHealth.Text.Percent
import Mathlib.Data.List.SplitBy

/-!
# Reading what was percent-encoded

A byte string can be percent-encoded in many ways: `Escapes` admits all of them, with digits of
either case and with any choice of the bytes that are escaped although they need not be.  All are
decoded alike (`Escapes.plusDecode_eq`), and `percentEncode` is one of them
(`escapes_percentEncode`).

Where a plus sign stands for itself, as in the components of an address, the encoder may leave any
character but the percent sign as it is: `percentDecode_percentEncode`.
-/

namespace CardHealth.Text

/-- An ASCII text writes these bytes, each of them as itself, as a percent escape or, if it is a
blank, as a plus sign.  A percent sign, a plus sign and the mark between fields do not stand for
themselves. -/
inductive Escapes : List Char → Bytes → Prop where
  | nil : Escapes [] []
  | plain {c : Char} {s : List Char} {b : Bytes} (ascii : isAscii c = true)
      (unmarked : c ∉ ['%', '+', '&']) (rest : Escapes s b) :
      Escapes (c :: s) (UInt8.ofNat c.toNat :: b)
  | plus {s : List Char} {b : Bytes} (rest : Escapes s b) : Escapes ('+' :: s) (32 :: b)
  | escape {high low : Char} {byte : UInt8} {s : List Char} {b : Bytes}
      (digits : hexByte? high low = some byte) (rest : Escapes s b) :
      Escapes ('%' :: high :: low :: s) (byte :: b)

/-! ### Hexadecimal digits -/

theorem isAscii_of_hexValue? {c : Char} (h : (hexValue? c).isSome = true) : isAscii c = true := by
  have hrange : ('0' ≤ c ∧ c ≤ '9') ∨ ('a' ≤ c ∧ c ≤ 'f') ∨ ('A' ≤ c ∧ c ≤ 'F') := by
    unfold hexValue? at h
    split_ifs at h <;> simp_all
  simp only [Char.le_def, UInt32.le_iff_toNat_le] at hrange
  have hle : c.toNat ≤ 102 := by
    rcases hrange with h | h | h <;> exact h.2.trans (by decide)
  exact decide_eq_true (by omega)

theorem ne_of_hexValue? {c d : Char} (h : (hexValue? c).isSome = true)
    (hd : hexValue? d = none) : c ≠ d := by
  rintro rfl
  rw [hd] at h
  cases h

theorem isSome_of_hexByte? {high low : Char} {byte : UInt8} (h : hexByte? high low = some byte) :
    (hexValue? high).isSome = true ∧ (hexValue? low).isSome = true := by
  unfold hexByte? at h
  cases hhigh : hexValue? high <;> cases hlow : hexValue? low <;> simp_all

/-! ### Bytes of an ASCII text -/

theorem percentBytesOnto_cons {c : Char} (hc : c ≠ '%') (acc : Bytes) (s : List Char) :
    percentBytesOnto acc (c :: s) = percentBytesOnto (UInt8.ofNat c.toNat :: acc) s := by
  match s with
  | [] => simp [percentBytesOnto]
  | [d] => simp [percentBytesOnto]
  | high :: low :: rest => simp [percentBytesOnto, hc]

theorem percentBytesOnto_escape {high low : Char} {byte : UInt8}
    (h : hexByte? high low = some byte) (acc : Bytes) (s : List Char) :
    percentBytesOnto acc ('%' :: high :: low :: s) = percentBytesOnto (byte :: acc) s := by
  rw [percentBytesOnto, if_pos (by rfl), h]

/-- An ASCII text is one run. -/
theorem percentDecode_of_ascii {s : List Char} (h : ∀ c ∈ s, isAscii c = true) :
    percentDecode s = decodeUtf8Lossy (percentBytes s) := by
  rcases eq_or_ne s [] with rfl | hs
  · simp [percentDecode, percentBytes, percentBytesOnto, decodeUtf8Lossy, utf8Pieces,
      utf8PiecesOnto]
  · have hchain : s.IsChain fun a b => (isAscii a == isAscii b) = true := by
      refine (List.pairwise_of_forall_mem_list fun a ha b hb => ?_).isChain
      rw [h a ha, h b hb]
      rfl
    rw [percentDecode, List.splitBy_of_isChain hs hchain, List.flatMap_singleton,
      if_pos (List.all_eq_true.mpr h)]

/-! ### Escaped texts -/

/-- A plus sign stands for a blank. -/
def plusToBlank (c : Char) : Char :=
  if c == '+' then ' ' else c

theorem plusToBlank_of_ne {c : Char} (h : c ≠ '+') : plusToBlank c = c :=
  if_neg (by simpa using h)

namespace Escapes

variable {s : List Char} {b : Bytes}

theorem isAscii (h : Escapes s b) : ∀ c ∈ s, Text.isAscii c = true := by
  induction h with
  | nil => simp
  | plain ascii unmarked rest ih => exact List.forall_mem_cons.mpr ⟨ascii, ih⟩
  | plus rest ih => exact List.forall_mem_cons.mpr ⟨rfl, ih⟩
  | escape digits rest ih =>
    obtain ⟨hhigh, hlow⟩ := isSome_of_hexByte? digits
    simp only [List.forall_mem_cons]
    exact ⟨rfl, isAscii_of_hexValue? hhigh, isAscii_of_hexValue? hlow, ih⟩

/-- The mark between fields does not occur. -/
theorem ne_amp (h : Escapes s b) : ∀ c ∈ s, c ≠ '&' := by
  induction h with
  | nil => simp
  | plain ascii unmarked rest ih =>
    refine List.forall_mem_cons.mpr ⟨?_, ih⟩
    rintro rfl
    simp at unmarked
  | plus rest ih => exact List.forall_mem_cons.mpr ⟨by decide, ih⟩
  | escape digits rest ih =>
    obtain ⟨hhigh, hlow⟩ := isSome_of_hexByte? digits
    simp only [List.forall_mem_cons]
    exact ⟨by decide, ne_of_hexValue? hhigh rfl, ne_of_hexValue? hlow rfl, ih⟩

theorem percentBytesOnto_eq (h : Escapes s b) (acc : Bytes) :
    percentBytesOnto acc (s.map plusToBlank) = b.reverse ++ acc := by
  induction h generalizing acc with
  | nil => simp [percentBytesOnto]
  | plain ascii unmarked rest ih =>
    simp only [List.mem_cons, List.not_mem_nil, or_false, not_or] at unmarked
    obtain ⟨hpercent, hplus, -⟩ := unmarked
    rw [List.map_cons, plusToBlank_of_ne hplus, percentBytesOnto_cons hpercent, ih]
    simp
  | plus rest ih =>
    rw [List.map_cons, percentBytesOnto_cons (by decide), ih, List.reverse_cons,
      List.append_assoc]
    rfl
  | escape digits rest ih =>
    obtain ⟨hhigh, hlow⟩ := isSome_of_hexByte? digits
    rw [List.map_cons, List.map_cons, List.map_cons, plusToBlank_of_ne (by decide),
      plusToBlank_of_ne (ne_of_hexValue? hhigh rfl), plusToBlank_of_ne (ne_of_hexValue? hlow rfl),
      percentBytesOnto_escape digits, ih]
    simp

/-- **Every percent-encoding is decoded to what it writes**. -/
theorem plusDecode_eq (h : Escapes s b) : plusDecode s = decodeUtf8Lossy b := by
  have hascii : ∀ c ∈ s.map plusToBlank, Text.isAscii c = true := by
    intro c hc
    obtain ⟨d, hd, rfl⟩ := List.mem_map.mp hc
    unfold plusToBlank
    split_ifs
    · rfl
    · exact h.isAscii d hd
  show percentDecode (s.map plusToBlank) = decodeUtf8Lossy b
  rw [percentDecode_of_ascii hascii, percentBytes, h.percentBytesOnto_eq, List.append_nil,
    List.reverse_reverse]

/-- A text that was percent-encoded is decoded. -/
theorem ofList_plusDecode {v : String} (h : Escapes s (encodeUtf8 v)) :
    String.ofList (plusDecode s) = v := by
  rw [h.plusDecode_eq, decodeUtf8Lossy_encodeUtf8, String.ofList_toList]

theorem append {t : List Char} {c : Bytes} (h : Escapes s b) (ht : Escapes t c) :
    Escapes (s ++ t) (b ++ c) := by
  induction h with
  | nil => exact ht
  | plain ascii unmarked rest ih => exact .plain ascii unmarked ih
  | plus rest ih => exact .plus ih
  | escape digits rest ih => exact .escape digits ih

end Escapes

/-! ### Texts without escapes -/

theorem utf8EncodeChar_of_isAscii {c : Char} (h : isAscii c = true) :
    String.utf8EncodeChar c = [UInt8.ofNat c.toNat] := by
  have hc : c.toNat < 128 := of_decide_eq_true h
  exact String.utf8EncodeChar_eq_singleton (Char.utf8Size_eq_one_iff.mpr (by
    show c.val.toNat ≤ 127
    exact Nat.lt_succ_iff.mp hc))

theorem toLatin1_encodeUtf8 {s : String} (h : ∀ c ∈ s.toList, isAscii c = true) :
    Bytes.toLatin1 (encodeUtf8 s) = s.toList := by
  rw [encodeUtf8]
  generalize s.toList = chars at h
  induction chars with
  | nil => rfl
  | cons c s ih =>
    obtain ⟨hc, hs⟩ := List.forall_mem_cons.mp h
    have hlt : c.toNat < 256 := (of_decide_eq_true hc : c.toNat < 128).trans (by decide)
    rw [List.flatMap_cons, utf8EncodeChar_of_isAscii hc, Bytes.toLatin1_append, ih hs]
    show Char.ofNat (UInt8.ofNat c.toNat).toNat :: s = c :: s
    rw [UInt8.toNat_ofNat_of_lt' hlt, Char.ofNat_toNat]

/-- Nothing but ASCII characters, and none of those that do not stand for themselves. -/
def NeedNoEscape (s : List Char) : Prop :=
  ∀ c ∈ s, isAscii c = true ∧ c ∉ ['%', '+', '&']

/-- A text without such characters may be written as it is. -/
theorem escapes_encodeUtf8 {s : String} (h : NeedNoEscape s.toList) :
    Escapes s.toList (encodeUtf8 s) := by
  rw [encodeUtf8]
  generalize s.toList = chars at h
  induction chars with
  | nil => exact .nil
  | cons c s ih =>
    obtain ⟨⟨hascii, hunmarked⟩, hs⟩ := List.forall_mem_cons.mp h
    rw [List.flatMap_cons, utf8EncodeChar_of_isAscii hascii, List.singleton_append]
    exact .plain hascii hunmarked (ih hs)

/-! ### The encoder -/

theorem hexValue?_toUpper_hexDigit : ∀ n < 16, hexValue? (hexDigit n).toUpper = some n := by
  decide

theorem exists_percentEscape_eq (b : UInt8) :
    ∃ high low, percentEscape b = ['%', high, low] ∧ hexByte? high low = some b := by
  have hb := b.toNat_lt
  refine ⟨_, _, rfl, ?_⟩
  rw [hexByte?, hexValue?_toUpper_hexDigit _ (Nat.mod_lt _ (by decide)),
    hexValue?_toUpper_hexDigit _ (Nat.mod_lt _ (by decide))]
  have hvalue : 16 * (b.toNat / 16 % 16) + b.toNat % 16 = b.toNat := by omega
  show some (UInt8.ofNat _) = _
  rw [hvalue, UInt8.ofNat_toNat]

/-- **The encoder escapes its text**, whatever other characters it leaves as they are. -/
theorem escapes_percentEncode {safe : Char → Bool} (hsafe : ∀ c ∈ ['%', '+', '&'], safe c = false)
    (v : String) : Escapes (percentEncode safe v).toList (encodeUtf8 v) := by
  rw [percentEncode, String.toList_ofList]
  induction encodeUtf8 v with
  | nil => exact .nil
  | cons b bytes ih =>
    rw [List.flatMap_cons, ← List.singleton_append]
    refine Escapes.append ?_ ih
    dsimp only
    split_ifs with hplain
    · obtain ⟨hascii, hkept⟩ := Bool.and_eq_true_iff.mp hplain
      -- None of the three marks is kept.
      have hunmarked : Char.ofNat b.toNat ∉ ['%', '+', '&'] := by
        intro hmark
        have hreserved : ∀ c ∈ ['%', '+', '&'], isUnreserved c = false := by
          simp only [List.forall_mem_cons]
          exact ⟨by decide, by decide, by decide, by simp⟩
        rw [hreserved _ hmark, hsafe _ hmark] at hkept
        cases hkept
      have hone := Escapes.plain hascii hunmarked .nil
      rwa [Bytes.toNat_ofNat, UInt8.ofNat_toNat] at hone
    · obtain ⟨high, low, hescape, hdigits⟩ := exists_percentEscape_eq b
      rw [hescape]
      exact .escape hdigits .nil

/-! ### Encoded components -/

section Component

variable {safe : Char → Bool}

theorem isUnreserved_toUpper_hexDigit : ∀ n < 16, isUnreserved (hexDigit n).toUpper = true := by
  decide

/-- An encoded text consists of percent signs, digits of escapes, and characters that need none. -/
theorem of_mem_percentEncode {v : String} {c : Char} (h : c ∈ (percentEncode safe v).toList) :
    isAscii c = true ∧ (c = '%' ∨ isUnreserved c = true ∨ safe c = true) := by
  rw [percentEncode, String.toList_ofList] at h
  obtain ⟨b, -, hc⟩ := List.mem_flatMap.mp h
  dsimp only at hc
  split_ifs at hc with hplain
  · obtain rfl := List.mem_singleton.mp hc
    obtain ⟨hascii, hkept⟩ := Bool.and_eq_true_iff.mp hplain
    exact ⟨hascii, .inr ((Bool.or_eq_true _ _).mp hkept)⟩
  · have hdigit : ∀ n < 16, isAscii (hexDigit n).toUpper = true := by decide
    rcases List.mem_cons.mp hc with rfl | hc
    · exact ⟨by decide, .inl rfl⟩
    · have hdigits : (hexDigits 2 b.toNat).map Char.toUpper =
          [(hexDigit (b.toNat / 16 % 16)).toUpper, (hexDigit (b.toNat % 16)).toUpper] := rfl
      rw [hdigits, List.mem_cons, List.mem_singleton] at hc
      rcases hc with rfl | rfl
      · have hlt : b.toNat / 16 % 16 < 16 := Nat.mod_lt _ (by decide)
        exact ⟨hdigit _ hlt, .inr (.inl (isUnreserved_toUpper_hexDigit _ hlt))⟩
      · have hlt : b.toNat % 16 < 16 := Nat.mod_lt _ (by decide)
        exact ⟨hdigit _ hlt, .inr (.inl (isUnreserved_toUpper_hexDigit _ hlt))⟩

/-- A mark that is neither unreserved nor safe does not occur in an encoded text. -/
theorem not_mem_percentEncode {mark : Char} (hpercent : mark ≠ '%')
    (hreserved : isUnreserved mark = false) (hsafe : safe mark = false) (v : String) :
    mark ∉ (percentEncode safe v).toList := by
  intro hmem
  obtain ⟨-, rfl | h | h⟩ := of_mem_percentEncode hmem
  · exact hpercent rfl
  · rw [hreserved] at h
    cases h
  · rw [hsafe] at h
    cases h

theorem percentBytes_percentEncode (hpercent : safe '%' = false) (v : String) :
    percentBytes (percentEncode safe v).toList = encodeUtf8 v := by
  rw [percentEncode, String.toList_ofList, percentBytes, List.reverse_eq_iff,
    ← List.append_nil (encodeUtf8 v).reverse]
  generalize ([] : Bytes) = acc
  induction encodeUtf8 v generalizing acc with
  | nil => rw [List.flatMap_nil, percentBytesOnto, List.reverse_nil, List.nil_append]
  | cons b bytes ih =>
    rw [List.flatMap_cons, List.reverse_cons, List.append_assoc, List.singleton_append]
    dsimp only
    split_ifs with hplain
    · obtain ⟨-, hkept⟩ := Bool.and_eq_true_iff.mp hplain
      have hne : Char.ofNat b.toNat ≠ '%' := by
        intro hmark
        rw [hmark, hpercent] at hkept
        exact absurd hkept (by decide)
      rw [List.singleton_append, percentBytesOnto_cons hne, ih, Bytes.toNat_ofNat,
        UInt8.ofNat_toNat]
    · obtain ⟨high, low, hescape, hdigits⟩ := exists_percentEscape_eq b
      rw [hescape]
      exact (percentBytesOnto_escape hdigits _ _).trans (ih _)

/-- **A component is read back**, whatever characters the encoder leaves as they are. -/
theorem percentDecode_percentEncode (hpercent : safe '%' = false) (v : String) :
    percentDecode (percentEncode safe v).toList = v.toList := by
  rw [percentDecode_of_ascii fun c hc => (of_mem_percentEncode hc).1,
    percentBytes_percentEncode hpercent, decodeUtf8Lossy_encodeUtf8]

end Component

end CardHealth.Text
