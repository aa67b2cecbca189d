import SchemaDesk.Text.Utf8

/-!
# Encoded texts are decoded, and nothing else

Decoding gives back every text that was encoded, and decodes no other bytes.
There is one case for each length of a sequence; in each, the first byte tells
the length and the range of the second byte.
-/

namespace SchemaDesk.Text.Utf8

theorem toNat_toUInt8 {n : Nat} (small : n < 256) : n.toUInt8.toNat = n :=
  UInt8.toNat_ofNat_of_lt small

/-- The second byte lies in the range that the first one leaves. -/
def Opens (width first second : Nat) : Prop :=
  ∃ low high, leadRange? first = some (width, low, high) ∧ low ≤ second ∧ second ≤ high

/-- The byte may stand at the third or fourth place of a sequence. -/
def Continues (byte : Nat) : Prop :=
  0x80 ≤ byte ∧ byte ≤ 0xbf

theorem Continues.read {byte : Nat} (continues : Continues byte) :
    isContinuation byte.toUInt8 = true ∧ byte.toUInt8.toNat = byte := by
  obtain ⟨low, high⟩ := continues
  have value : byte.toUInt8.toNat = byte := toNat_toUInt8 (by omega)
  rw [isContinuation, value]
  simp [low, high]

/-- A sequence of three bytes is not for what has fewer bytes and not for a surrogate, one of four
is not for what has fewer bytes and not for what lies behind the last character. -/
theorem leadRange?_eq_some {lead width low high : Nat}
    (range : leadRange? lead = some (width, low, high)) :
    0x80 ≤ low ∧ high ≤ 0xbf ∧
      (width = 2 ∧ 0xc2 ≤ lead ∧ lead < 0xe0 ∨
        width = 3 ∧ 0xe0 ≤ lead ∧ lead < 0xf0 ∧ (lead = 0xe0 → 0xa0 ≤ low) ∧
          (lead = 0xed → high ≤ 0x9f) ∨
        width = 4 ∧ 0xf0 ≤ lead ∧ lead ≤ 0xf4 ∧ (lead = 0xf0 → 0x90 ≤ low) ∧
          (lead = 0xf4 → high ≤ 0x8f)) := by
  unfold leadRange? at range
  repeat' split at range
  all_goals cases range
  all_goals omega

/-- A byte that opens a sequence is no character by itself. -/
theorem Opens.lead {width first second : Nat} (opens : Opens width first second) :
    0xc2 ≤ first ∧ first ≤ 0xf4 ∧ second ≤ 0xbf := by
  obtain ⟨low, high, range, -, bound⟩ := opens
  have limits := leadRange?_eq_some range
  omega

theorem opens_two {n : Nat} (least : 0x80 ≤ n) (small : n < 0x800) :
    Opens 2 (0xc0 + n / 0x40) (0x80 + n % 0x40) := by
  refine ⟨0x80, 0xbf, ?_, by omega, by omega⟩
  rw [leadRange?, if_neg (by omega), if_pos (by omega)]

/-- Of the sequences of three bytes, the first may not be too short and the others no surrogate. -/
theorem opens_three {n : Nat} (least : 0x800 ≤ n) (small : n < 0x10000)
    (valid : n < 0xd800 ∨ 0xdfff < n) :
    Opens 3 (0xe0 + n / 0x1000) (0x80 + n / 0x40 % 0x40) := by
  unfold Opens leadRange?
  rw [if_neg (by omega), if_neg (by omega)]
  split
  · exact ⟨_, _, rfl, by omega, by omega⟩
  split
  · exact ⟨_, _, rfl, by omega, by omega⟩
  · rw [if_pos (by omega)]
    exact ⟨_, _, rfl, by omega, by omega⟩

theorem opens_four {n : Nat} (least : 0x10000 ≤ n) (small : n < 0x110000) :
    Opens 4 (0xf0 + n / 0x40000) (0x80 + n / 0x1000 % 0x40) := by
  unfold Opens leadRange?
  rw [if_neg (by omega), if_neg (by omega), if_neg (by omega), if_neg (by omega),
    if_neg (by omega)]
  split
  · exact ⟨_, _, rfl, by omega, by omega⟩
  split
  · exact ⟨_, _, rfl, by omega, by omega⟩
  · rw [if_pos (by omega)]
    exact ⟨_, _, rfl, by omega, by omega⟩

section Sequences

variable {a b c d : Nat} (position : Nat) (rest : List UInt8)

theorem decodeFrom_one (small : a < 0x80) :
    decodeFrom position (a.toUInt8 :: rest) =
      (Char.ofNat a :: ·) <$> decodeFrom (position + 1) rest := by
  rw [decodeFrom, toNat_toUInt8 (by omega), if_pos small]

theorem decodeFrom_two (opens : Opens 2 a b) :
    decodeFrom position (a.toUInt8 :: b.toUInt8 :: rest) =
      (Char.ofNat ((a - 0xc0) * 0x40 + (b - 0x80)) :: ·) <$>
        decodeFrom (position + 2) rest := by
  obtain ⟨least, most, second⟩ := opens.lead
  obtain ⟨low, high, range, above, below⟩ := opens
  have value : b.toUInt8.toNat = b := toNat_toUInt8 (by omega)
  rw [decodeFrom, toNat_toUInt8 (by omega), if_neg (by omega), range]
  simp [value, Nat.not_lt.mpr above, Nat.not_lt.mpr below]

theorem decodeFrom_three (opens : Opens 3 a b) (third : Continues c) :
    decodeFrom position (a.toUInt8 :: b.toUInt8 :: c.toUInt8 :: rest) =
      (Char.ofNat (((a - 0xe0) * 0x40 + (b - 0x80)) * 0x40 + (c - 0x80)) :: ·) <$>
        decodeFrom (position + 3) rest := by
  obtain ⟨least, most, second⟩ := opens.lead
  obtain ⟨low, high, range, above, below⟩ := opens
  have value : b.toUInt8.toNat = b := toNat_toUInt8 (by omega)
  obtain ⟨continued, last⟩ := third.read
  rw [decodeFrom, toNat_toUInt8 (by omega), if_neg (by omega), range]
  simp [value, Nat.not_lt.mpr above, Nat.not_lt.mpr below, continued, last]

theorem decodeFrom_four (opens : Opens 4 a b) (third : Continues c) (fourth : Continues d) :
    decodeFrom position (a.toUInt8 :: b.toUInt8 :: c.toUInt8 :: d.toUInt8 :: rest) =
      (Char.ofNat ((((a - 0xf0) * 0x40 + (b - 0x80)) * 0x40 + (c - 0x80)) * 0x40 +
        (d - 0x80)) :: ·) <$> decodeFrom (position + 4) rest := by
  obtain ⟨least, most, second⟩ := opens.lead
  obtain ⟨low, high, range, above, below⟩ := opens
  have value : b.toUInt8.toNat = b := toNat_toUInt8 (by omega)
  obtain ⟨continued, middle⟩ := third.read
  obtain ⟨ended, last⟩ := fourth.read
  rw [decodeFrom, toNat_toUInt8 (by omega), if_neg (by omega), range]
  simp [value, Nat.not_lt.mpr above, Nat.not_lt.mpr below, continued, middle, ended, last]

end Sequences

theorem decodeFrom_encodeChar (c : Char) (position : Nat) (rest : List UInt8) :
    ∃ next, decodeFrom position (encodeChar c ++ rest) = (c :: ·) <$> decodeFrom next rest := by
  have valid : c.toNat < 0xd800 ∨ 0xdfff < c.toNat ∧ c.toNat < 0x110000 := c.valid
  have character {n : Nat} (same : n = c.toNat) : Char.ofNat n = c := by
    rw [same, Char.ofNat_toNat]
  unfold encodeChar
  dsimp only
  split
  · next small =>
    refine ⟨position + 1, (decodeFrom_one position rest small).trans ?_⟩
    rw [character rfl]
  split
  · refine ⟨position + 2, (decodeFrom_two position rest (opens_two (by omega) (by omega))).trans ?_⟩
    rw [character (by omega)]
  split
  · have opens := @opens_three c.toNat (by omega) (by omega) (by omega)
    have third : Continues (0x80 + c.toNat % 0x40) := ⟨by omega, by omega⟩
    refine ⟨position + 3, (decodeFrom_three position rest opens third).trans ?_⟩
    rw [character (by omega)]
  · have opens := @opens_four c.toNat (by omega) (by omega)
    have third : Continues (0x80 + c.toNat / 0x40 % 0x40) := ⟨by omega, by omega⟩
    have fourth : Continues (0x80 + c.toNat % 0x40) := ⟨by omega, by omega⟩
    refine ⟨position + 4, (decodeFrom_four position rest opens third fourth).trans ?_⟩
    rw [character (by omega)]

theorem decodeFrom_encode (text : List Char) (position : Nat) :
    decodeFrom position (encode text) = .ok text := by
  -- The position only goes into the description of a fault, and there is none.
  induction text generalizing position with
  | nil => rfl
  | cons c text ih =>
    obtain ⟨next, decoded⟩ := decodeFrom_encodeChar c position (encode text)
    rw [encode, List.flatMap_cons, ← encode, decoded, ih]
    rfl

theorem decode_encode (text : List Char) : decode (encode text) = .ok text :=
  decodeFrom_encode text 0

/-! ## Decoded bytes are an encoded text -/

theorem toNat_ofNat {n : Nat} (valid : n.isValidChar) : (Char.ofNat n).toNat = n := by
  rw [Char.ofNat, dif_pos valid]
  rfl

section Characters

variable {a b c d : Nat}

theorem encodeChar_one (small : a < 0x80) : encodeChar (Char.ofNat a) = [a.toUInt8] := by
  rw [encodeChar, toNat_ofNat (.inl (by omega)), if_pos small]

theorem encodeChar_two (opens : Opens 2 a b) :
    encodeChar (Char.ofNat ((a - 0xc0) * 0x40 + (b - 0x80))) = [a.toUInt8, b.toUInt8] := by
  obtain ⟨low, high, range, above, below⟩ := opens
  have limits := leadRange?_eq_some range
  generalize code : (a - 0xc0) * 0x40 + (b - 0x80) = n
  have first : 0xc0 + n / 0x40 = a := by omega
  have second : 0x80 + n % 0x40 = b := by omega
  rw [encodeChar, toNat_ofNat (.inl (by omega))]
  rw [if_neg (by omega), if_pos (by omega), first, second]

theorem encodeChar_three (opens : Opens 3 a b) (third : Continues c) :
    encodeChar (Char.ofNat (((a - 0xe0) * 0x40 + (b - 0x80)) * 0x40 + (c - 0x80))) =
      [a.toUInt8, b.toUInt8, c.toUInt8] := by
  obtain ⟨low, high, range, above, below⟩ := opens
  have limits := leadRange?_eq_some range
  obtain ⟨least, most⟩ := third
  generalize code : ((a - 0xe0) * 0x40 + (b - 0x80)) * 0x40 + (c - 0x80) = n
  have first : 0xe0 + n / 0x1000 = a := by omega
  have second : 0x80 + n / 0x40 % 0x40 = b := by omega
  have last : 0x80 + n % 0x40 = c := by omega
  have valid : n < 0xd800 ∨ 0xdfff < n ∧ n < 0x110000 := by omega
  rw [encodeChar, toNat_ofNat valid]
  rw [if_neg (by omega), if_neg (by omega), if_pos (by omega), first, second, last]

theorem encodeChar_four (opens : Opens 4 a b) (third : Continues c) (fourth : Continues d) :
    encodeChar (Char.ofNat ((((a - 0xf0) * 0x40 + (b - 0x80)) * 0x40 + (c - 0x80)) * 0x40 +
      (d - 0x80))) = [a.toUInt8, b.toUInt8, c.toUInt8, d.toUInt8] := by
  obtain ⟨low, high, range, above, below⟩ := opens
  have limits := leadRange?_eq_some range
  obtain ⟨least, most⟩ := third
  obtain ⟨leastToo, mostToo⟩ := fourth
  generalize code : (((a - 0xf0) * 0x40 + (b - 0x80)) * 0x40 + (c - 0x80)) * 0x40 +
    (d - 0x80) = n
  have first : 0xf0 + n / 0x40000 = a := by omega
  have second : 0x80 + n / 0x1000 % 0x40 = b := by omega
  have middle : 0x80 + n / 0x40 % 0x40 = c := by omega
  have last : 0x80 + n % 0x40 = d := by omega
  have valid : n < 0xd800 ∨ 0xdfff < n ∧ n < 0x110000 := by omega
  rw [encodeChar, toNat_ofNat valid]
  rw [if_neg (by omega), if_neg (by omega), if_neg (by omega), first, second, middle, last]

end Characters

theorem continues_of_isContinuation {byte : UInt8} (continues : ¬ (!isContinuation byte) = true) :
    Continues byte.toNat := by
  simpa [isContinuation, Continues] using continues

/-- Where one character was decoded first, its bytes come first. -/
theorem encode_of_cons {c : Char} {decoded : Except Malformed (List Char)} {rest : List UInt8}
    {text : List Char} (read : (c :: ·) <$> decoded = .ok text)
    (later : ∀ {text}, decoded = .ok text → encode text = rest) :
    encode text = encodeChar c ++ rest := by
  cases decoded with
  | error => cases read
  | ok others =>
    cases read
    rw [encode, List.flatMap_cons, ← encode, later rfl]

theorem encode_of_decodeFrom {position : Nat} {bytes : List UInt8} {text : List Char}
    (decoded : decodeFrom position bytes = .ok text) : encode text = bytes := by
  fun_induction decodeFrom position bytes generalizing text with
  | case1 =>
    cases decoded
    rfl
  | case2 position a rest small ih =>
    rw [encode_of_cons decoded ih, encodeChar_one small]
    simp
  | case6 position a least low high b rest inside range ih =>
    have opens : Opens 2 a.toNat b.toNat := ⟨low, high, range, by omega, by omega⟩
    rw [encode_of_cons decoded ih, encodeChar_two opens]
    simp
  | case9 position a least low high b inside c rest continues range _ ih =>
    have opens : Opens 3 a.toNat b.toNat := ⟨low, high, range, by omega, by omega⟩
    rw [encode_of_cons decoded ih, encodeChar_three opens (continues_of_isContinuation continues)]
    simp
  | case12 position a least width low high range b inside _ c continues _ d rest continuesToo ih =>
    have wide := leadRange?_eq_some range
    obtain rfl : width = 4 := by omega
    have opens : Opens 4 a.toNat b.toNat := ⟨low, high, range, by omega, by omega⟩
    rw [encode_of_cons decoded ih, encodeChar_four opens (continues_of_isContinuation continues)
      (continues_of_isContinuation continuesToo)]
    simp
  | case3 | case4 | case5 | case7 | case8 | case10 | case11 => cases decoded

/-- The bytes that are decoded are those of a text. -/
theorem decode_eq_ok_iff {bytes : List UInt8} {text : List Char} :
    decode bytes = .ok text ↔ encode text = bytes := by
  constructor
  · exact encode_of_decodeFrom
  · rintro rfl
    exact decode_encode text

end SchemaDesk.Text.Utf8
