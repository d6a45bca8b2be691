import CardHealth.Base64
import Mathlib.Data.List.Basic

/-!
# Decoding Base64

`chars` is the encoding of a byte string in the order in which it is read: three bytes are four
digits, and a last group of one or two bytes is filled up with padding.

* `decode?_eq_some_iff`: the strict decoder accepts the encodings and no other text.
* `decodeLenient_encode`: on encodings the lenient decoder agrees with it.
* `length_encode` and `exists_chars_eq`: the length and the characters of an encoding.
-/

namespace CardHealth.Base64

/-! ### Digits -/

/-- The digits of the standard alphabet, from zero on. -/
def alphabet : List Char :=
  "ABCDEFGHIJKLMNOPQRSTUVWXYZabcdefghijklmnopqrstuvwxyz0123456789+/".toList

theorem alphabet_getElem? : ∀ n < 64, alphabet[n]? = some (digit n) := by
  decide

theorem digit_mem_alphabet {n : Nat} (h : n < 64) : digit n ∈ alphabet :=
  List.mem_of_getElem? (alphabet_getElem? n h)

theorem toNat_lt_of_mem_alphabet : ∀ c ∈ alphabet, c.toNat < 128 := by
  have hall : (alphabet.all fun c => decide (c.toNat < 128)) = true := by decide
  simpa using hall

theorem digit?_digit : ∀ n < 64, digit? (digit n) = some n := by
  decide

theorem digit_ne_pad : ∀ n < 64, digit n ≠ '=' := by
  decide

/-- A digit is an ASCII character. -/
theorem toNat_lt_of_digit? {c : Char} {n : Nat} (h : digit? c = some n) : c.toNat < 128 := by
  have hle : ∀ d : Char, c ≤ d → c.toNat ≤ d.toNat := fun d hcd => hcd
  have hZ : 'Z'.toNat = 90 := rfl
  have hz : 'z'.toNat = 122 := rfl
  have hnine : '9'.toNat = 57 := rfl
  unfold digit? at h
  split_ifs at h with h1 h2 h3 h4 h5
  · have := hle _ h1.2
    omega
  · have := hle _ h2.2
    omega
  · have := hle _ h3.2
    omega
  · rw [beq_iff_eq.mp h4]
    decide
  · rw [beq_iff_eq.mp h5]
    decide

theorem digit_of_digit?_ofNat : ∀ k < 128, ∀ n ∈ digit? (Char.ofNat k),
    n < 64 ∧ digit n = Char.ofNat k := by
  decide

theorem digit_of_digit? {c : Char} {n : Nat} (h : digit? c = some n) : n < 64 ∧ digit n = c := by
  have hdigit := digit_of_digit?_ofNat c.toNat (toNat_lt_of_digit? h) n (by rwa [Char.ofNat_toNat])
  rwa [Char.ofNat_toNat] at hdigit

/-! ### Bytes -/

/-- The first byte of a group is the first digit and two bits of the second. -/
theorem ofNat_first (a : UInt8) {x : Nat} (hx : x < 16) :
    UInt8.ofNat (a.toNat / 4 * 4 + (a.toNat % 4 * 16 + x) / 16) = a := by
  have hvalue : a.toNat / 4 * 4 + (a.toNat % 4 * 16 + x) / 16 = a.toNat := by omega
  rw [hvalue, UInt8.ofNat_toNat]

theorem ofNat_second (b : UInt8) (x : Nat) {y : Nat} (hy : y < 4) :
    UInt8.ofNat ((x * 16 + b.toNat / 16) % 16 * 16 + (b.toNat % 16 * 4 + y) / 4) = b := by
  have hb := b.toNat_lt
  have hvalue :
      (x * 16 + b.toNat / 16) % 16 * 16 + (b.toNat % 16 * 4 + y) / 4 = b.toNat := by
    omega
  rw [hvalue, UInt8.ofNat_toNat]

theorem ofNat_third (c : UInt8) (y : Nat) :
    UInt8.ofNat ((y * 4 + c.toNat / 64) % 4 * 64 + c.toNat % 64) = c := by
  have hc := c.toNat_lt
  have hvalue : (y * 4 + c.toNat / 64) % 4 * 64 + c.toNat % 64 = c.toNat := by omega
  rw [hvalue, UInt8.ofNat_toNat]

/-! ### Encodings in order -/

/-- The encoding of a byte string. -/
def chars : Bytes → List Char
  | [] => []
  | [a] => [digit (a.toNat / 4), digit (a.toNat % 4 * 16), '=', '=']
  | [a, b] =>
    [digit (a.toNat / 4), digit (a.toNat % 4 * 16 + b.toNat / 16), digit (b.toNat % 16 * 4), '=']
  | a :: b :: c :: rest =>
    digit (a.toNat / 4) :: digit (a.toNat % 4 * 16 + b.toNat / 16) ::
      digit (b.toNat % 16 * 4 + c.toNat / 64) :: digit (c.toNat % 64) :: chars rest

theorem reverse_encodeOnto (acc : List Char) (b : Bytes) :
    (encodeOnto acc b).reverse = acc.reverse ++ chars b := by
  fun_induction encodeOnto acc b with
  | case1 acc => rw [chars, List.append_nil]
  | case2 acc a => simp [chars]
  | case3 acc a b => simp [chars]
  | case4 acc a b c rest ih =>
    rw [ih, chars]
    simp

@[simp] theorem toList_encode (b : Bytes) : (encode b).toList = chars b := by
  rw [encode, String.toList_ofList, reverse_encodeOnto, List.reverse_nil, List.nil_append]

theorem length_chars (b : Bytes) : (chars b).length = 4 * ((b.length + 2) / 3) := by
  fun_induction chars b with
  | case1 => decide
  | case2 a => simp
  | case3 a b => simp
  | case4 a b c rest ih =>
    simp only [List.length_cons, ih]
    omega

/-- Digits, and then as many padding marks as bytes are missing from the last group. -/
theorem exists_chars_eq (b : Bytes) :
    ∃ body, chars b = body ++ List.replicate ((3 - b.length % 3) % 3) '=' ∧
      ∀ c ∈ body, c ∈ alphabet := by
  fun_induction chars b with
  | case1 => exact ⟨[], rfl, by simp⟩
  | case2 a =>
    have ha := a.toNat_lt
    refine ⟨[_, _], rfl, ?_⟩
    simp only [List.forall_mem_cons]
    exact ⟨digit_mem_alphabet (by omega), digit_mem_alphabet (by omega), by simp⟩
  | case3 a b =>
    have ha := a.toNat_lt
    have hb := b.toNat_lt
    refine ⟨[_, _, _], rfl, ?_⟩
    simp only [List.forall_mem_cons]
    exact ⟨digit_mem_alphabet (by omega), digit_mem_alphabet (by omega),
      digit_mem_alphabet (by omega), by simp⟩
  | case4 a b c rest ih =>
    have ha := a.toNat_lt
    have hb := b.toNat_lt
    have hc := c.toNat_lt
    obtain ⟨body, hbody, halphabet⟩ := ih
    refine ⟨[digit (a.toNat / 4), digit (a.toNat % 4 * 16 + b.toNat / 16),
      digit (b.toNat % 16 * 4 + c.toNat / 64), digit (c.toNat % 64)] ++ body, ?_, ?_⟩
    · have hlength : (a :: b :: c :: rest).length % 3 = rest.length % 3 := by
        simp only [List.length_cons]
        omega
      rw [hlength, hbody]
      rfl
    · simp only [List.cons_append, List.nil_append, List.forall_mem_cons]
      exact ⟨digit_mem_alphabet (by omega), digit_mem_alphabet (by omega),
        digit_mem_alphabet (by omega), digit_mem_alphabet (by omega), halphabet⟩

theorem toNat_lt_of_mem_chars {b : Bytes} {c : Char} (h : c ∈ chars b) : c.toNat < 128 := by
  obtain ⟨body, hbody, halphabet⟩ := exists_chars_eq b
  rw [hbody] at h
  rcases List.mem_append.mp h with hc | hc
  · exact toNat_lt_of_mem_alphabet c (halphabet c hc)
  · rw [List.eq_of_mem_replicate hc]
    decide

/-! ### The strict decoder -/

theorem decodeOnto?_chars (acc b : Bytes) :
    decodeOnto? acc (chars b) = some (b.reverse ++ acc) := by
  fun_induction chars b generalizing acc with
  | case1 => rfl
  | case2 a =>
    have ha := a.toNat_lt
    have hrest : (a.toNat % 4 * 16 % 16 == 0) = true := by
      rw [beq_iff_eq]
      omega
    have hfirst : UInt8.ofNat (a.toNat / 4 * 4 + a.toNat % 4 * 16 / 16) = a :=
      ofNat_first a (x := 0) (by decide)
    rw [decodeOnto?, digit?_digit _ (by omega), digit?_digit _ (by omega)]
    -- The last four bits of the second digit are zero, as the decoder demands.
    show (if (a.toNat % 4 * 16 % 16 == 0) = true then _ else none) = _
    rw [if_pos hrest, hfirst]
    rfl
  | case3 a b =>
    have ha := a.toNat_lt
    have hb := b.toNat_lt
    have hrest : (b.toNat % 16 * 4 % 4 == 0) = true := by
      rw [beq_iff_eq]
      omega
    have hsecond : UInt8.ofNat ((a.toNat % 4 * 16 + b.toNat / 16) % 16 * 16 + b.toNat % 16 * 4 / 4)
        = b := ofNat_second b (a.toNat % 4) (y := 0) (by decide)
    rw [decodeOnto?, digit?_digit _ (by omega), digit?_digit _ (by omega),
      digit?_digit _ (by omega)]
    · show (if (b.toNat % 16 * 4 % 4 == 0) = true then _ else none) = _
      rw [if_pos hrest, hsecond, ofNat_first a (by omega)]
      rfl
    · exact digit_ne_pad _ (by omega)
  | case4 a b c rest ih =>
    have ha := a.toNat_lt
    have hb := b.toNat_lt
    have hc := c.toNat_lt
    rw [decodeOnto?, digit?_digit _ (by omega), digit?_digit _ (by omega),
      digit?_digit _ (by omega), digit?_digit _ (by omega)]
    · dsimp only
      rw [ofNat_first a (by omega), ofNat_second b _ (by omega), ofNat_third, ih]
      simp
    · intro hpad
      exact absurd hpad (digit_ne_pad _ (by omega))
    · intro hpad
      exact absurd hpad (digit_ne_pad _ (by omega))

/-- **The decoder accepts encodings alone**: what it reads is the encoding of what it gives. -/
theorem exists_chars_of_decodeOnto? {acc out : Bytes} {t : List Char}
    (h : decodeOnto? acc t = some out) : ∃ b, t = chars b ∧ out = b.reverse ++ acc := by
  have hbyte : ∀ n < 256, (UInt8.ofNat n).toNat = n := fun n hn => UInt8.toNat_ofNat_of_lt' hn
  fun_induction decodeOnto? acc t with
  | case1 acc =>
    obtain rfl := Option.some.inj h
    exact ⟨[], rfl, rfl⟩
  | case2 acc p q =>
    obtain ⟨m, hp, hafter⟩ := Option.bind_eq_some_iff.mp h
    obtain ⟨n, hq, hread⟩ := Option.bind_eq_some_iff.mp hafter
    obtain ⟨hm, rfl⟩ := digit_of_digit? hp
    obtain ⟨hn, rfl⟩ := digit_of_digit? hq
    split_ifs at hread with hrest
    rw [beq_iff_eq] at hrest
    refine ⟨[UInt8.ofNat (m * 4 + n / 16)], ?_, (Option.some.inj hread).symm⟩
    rw [chars, hbyte _ (by omega)]
    have hfirst : (m * 4 + n / 16) / 4 = m := by omega
    have hsecond : (m * 4 + n / 16) % 4 * 16 = n := by omega
    rw [hfirst, hsecond]
  | case3 acc p q r hpad =>
    obtain ⟨m, hp, hafter⟩ := Option.bind_eq_some_iff.mp h
    obtain ⟨n, hq, hlast⟩ := Option.bind_eq_some_iff.mp hafter
    obtain ⟨k, hr, hread⟩ := Option.bind_eq_some_iff.mp hlast
    obtain ⟨hm, rfl⟩ := digit_of_digit? hp
    obtain ⟨hn, rfl⟩ := digit_of_digit? hq
    obtain ⟨hk, rfl⟩ := digit_of_digit? hr
    split_ifs at hread with hrest
    rw [beq_iff_eq] at hrest
    refine ⟨[UInt8.ofNat (m * 4 + n / 16), UInt8.ofNat (n % 16 * 16 + k / 4)], ?_,
      (Option.some.inj hread).symm⟩
    rw [chars, hbyte _ (by omega), hbyte _ (by omega)]
    have hfirst : (m * 4 + n / 16) / 4 = m := by omega
    have hsecond : (m * 4 + n / 16) % 4 * 16 + (n % 16 * 16 + k / 4) / 16 = n := by omega
    have hthird : (n % 16 * 16 + k / 4) % 16 * 4 = k := by omega
    rw [hfirst, hsecond, hthird]
  | case4 acc p q r s rest _ _ m n k l hs hr hq hp ih =>
    obtain ⟨hm, rfl⟩ := digit_of_digit? hp
    obtain ⟨hn, rfl⟩ := digit_of_digit? hq
    obtain ⟨hk, rfl⟩ := digit_of_digit? hr
    obtain ⟨hl, rfl⟩ := digit_of_digit? hs
    obtain ⟨b, rfl, rfl⟩ := ih h
    refine ⟨UInt8.ofNat (m * 4 + n / 16) :: UInt8.ofNat (n % 16 * 16 + k / 4) ::
      UInt8.ofNat (k % 4 * 64 + l) :: b, ?_, by simp⟩
    rw [chars, hbyte _ (by omega), hbyte _ (by omega), hbyte _ (by omega)]
    have hfirst : (m * 4 + n / 16) / 4 = m := by omega
    have hsecond : (m * 4 + n / 16) % 4 * 16 + (n % 16 * 16 + k / 4) / 16 = n := by omega
    have hthird : (n % 16 * 16 + k / 4) % 16 * 4 + (k % 4 * 64 + l) / 64 = k := by omega
    have hfourth : (k % 4 * 64 + l) % 64 = l := by omega
    rw [hfirst, hsecond, hthird, hfourth]
  | case5 => cases h
  | case6 => cases h

/-- **Strict decoding is the inverse of encoding**. -/
theorem decode?_eq_some_iff {s : String} {b : Bytes} : decode? s = some b ↔ s = encode b := by
  rw [decode?, Option.map_eq_some_iff]
  constructor
  · rintro ⟨out, hout, rfl⟩
    obtain ⟨b, hchars, rfl⟩ := exists_chars_of_decodeOnto? hout
    rw [List.append_nil, List.reverse_reverse]
    exact String.toList_injective (by rw [hchars, toList_encode])
  · rintro rfl
    refine ⟨b.reverse, ?_, List.reverse_reverse b⟩
    rw [toList_encode, decodeOnto?_chars, List.append_nil]

theorem decode?_encode (b : Bytes) : decode? (encode b) = some b :=
  decode?_eq_some_iff.mpr rfl

theorem encode_injective {a b : Bytes} (h : encode a = encode b) : a = b := by
  have hdecode := decode?_encode a
  rw [h, decode?_encode] at hdecode
  exact (Option.some.inj hdecode).symm

theorem length_encode (b : Bytes) : (encode b).length = 4 * ((b.length + 2) / 3) := by
  rw [← String.length_toList, toList_encode, length_chars]

/-! ### The lenient decoder -/

section Next

variable {n : Nat} (hn : n < 64) (acc : Bytes) (bits : Nat)

include hn

theorem next_digit_zero : Reading.next ⟨acc, 0, bits, 0⟩ (digit n) = ⟨acc, 1, n, 0⟩ := by
  simp [Reading.next, Reading.isClosed, digit?_digit n hn, digit_ne_pad n hn]

theorem next_digit_one :
    Reading.next ⟨acc, 1, bits, 0⟩ (digit n)
      = ⟨UInt8.ofNat (bits * 4 + n / 16) :: acc, 2, n % 16, 0⟩ := by
  simp [Reading.next, Reading.isClosed, digit?_digit n hn, digit_ne_pad n hn]

theorem next_digit_two :
    Reading.next ⟨acc, 2, bits, 0⟩ (digit n)
      = ⟨UInt8.ofNat (bits * 16 + n / 4) :: acc, 3, n % 4, 0⟩ := by
  simp [Reading.next, Reading.isClosed, digit?_digit n hn, digit_ne_pad n hn]

theorem next_digit_three :
    Reading.next ⟨acc, 3, bits, 0⟩ (digit n)
      = ⟨UInt8.ofNat (bits * 64 + n) :: acc, 0, 0, 0⟩ := by
  simp [Reading.next, Reading.isClosed, digit?_digit n hn, digit_ne_pad n hn]

end Next

/-- An encoding is read to its end, and the last group is filled up. -/
theorem foldl_next_chars (acc b : Bytes) :
    ∃ place bits pads, (chars b).foldl Reading.next ⟨acc, 0, 0, 0⟩
        = ⟨b.reverse ++ acc, place, bits, pads⟩ ∧
      (place = 0 ∨ 2 ≤ place ∧ 4 ≤ place + pads) := by
  fun_induction chars b generalizing acc with
  | case1 => exact ⟨0, 0, 0, rfl, .inl rfl⟩
  | case2 a =>
    have ha := a.toNat_lt
    have hfirst : UInt8.ofNat (a.toNat / 4 * 4 + a.toNat % 4 * 16 / 16) = a :=
      ofNat_first a (x := 0) (by decide)
    refine ⟨2, a.toNat % 4 * 16 % 16, 2, ?_, .inr (by decide)⟩
    rw [List.foldl_cons, next_digit_zero (by omega), List.foldl_cons, next_digit_one (by omega),
      hfirst]
    rfl
  | case3 a b =>
    have ha := a.toNat_lt
    have hb := b.toNat_lt
    have hsecond : UInt8.ofNat ((a.toNat % 4 * 16 + b.toNat / 16) % 16 * 16 + b.toNat % 16 * 4 / 4)
        = b := ofNat_second b (a.toNat % 4) (y := 0) (by decide)
    refine ⟨3, b.toNat % 16 * 4 % 4, 1, ?_, .inr (by decide)⟩
    rw [List.foldl_cons, next_digit_zero (by omega), List.foldl_cons, next_digit_one (by omega),
      List.foldl_cons, next_digit_two (by omega), ofNat_first a (by omega), hsecond]
    rfl
  | case4 a b c rest ih =>
    have ha := a.toNat_lt
    have hb := b.toNat_lt
    have hc := c.toNat_lt
    rw [List.foldl_cons, next_digit_zero (by omega), List.foldl_cons, next_digit_one (by omega),
      List.foldl_cons, next_digit_two (by omega), List.foldl_cons, next_digit_three (by omega),
      ofNat_first a (by omega), ofNat_second b _ (by omega), ofNat_third]
    obtain ⟨place, bits, pads, hread, hend⟩ := ih (c :: b :: a :: acc)
    exact ⟨place, bits, pads, by simpa using hread, hend⟩

/-- **Lenient decoding gives the bytes of an encoding back**. -/
theorem decodeLenient_encode (b : Bytes) : decodeLenient (encode b) = .ok b := by
  have hascii : ((chars b).any fun c => decide (c.toNat ≥ 0x80)) = false := by
    rw [List.any_eq_false]
    intro c hc
    have hlt := toNat_lt_of_mem_chars hc
    simpa using hlt
  obtain ⟨place, bits, pads, hread, hend⟩ := foldl_next_chars [] b
  have hclosed :
      (Reading.isClosed ⟨b.reverse ++ [], place, bits, pads⟩ || place == 0) = true := by
    rcases hend with rfl | ⟨hplace, hpads⟩
    · simp
    · simp [Reading.isClosed, hplace, hpads]
  rw [decodeLenient, toList_encode, hread]
  dsimp only
  rw [hascii, if_neg (by decide), if_pos hclosed, List.append_nil, List.reverse_reverse]

end CardHealth.Base64
