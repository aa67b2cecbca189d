import SchemaDesk.Json.Reader
import SchemaDesk.Number.Notation

/-!
# Reading numerals

What the reader makes of a numeral: digits without a leading zero, perhaps a
point with digits, perhaps an exponent. Nothing may follow that would continue
the numeral. A numeral whose sign and first digits exceed the limit is not read,
whatever follows them.
-/

namespace SchemaDesk.Json

open Number (Binary64 natText)

/-- Digits, at least one, and no zero before another. -/
structure IsNumeral (digits : List Char) : Prop where
  digit : ∀ c ∈ digits, c.isDigit = true
  nonempty : digits ≠ []
  plain : ∀ c rest, digits ≠ '0' :: c :: rest

/-- The text does not start with a digit. -/
def NoDigit (text : List Char) : Prop :=
  ∀ c ∈ text.head?, c.isDigit = false

/-- Nothing at the start of the text continues a numeral. -/
def EndsNumeral (text : List Char) : Prop :=
  ∀ c ∈ text.head?, c.isDigit = false ∧ c ≠ '.' ∧ c ≠ 'e' ∧ c ≠ 'E'

theorem EndsNumeral.noDigit {text : List Char} (ends : EndsNumeral text) : NoDigit text :=
  fun c first => (ends c first).1

theorem takeWhile_isDigit_append {digits rest : List Char}
    (digit : ∀ c ∈ digits, c.isDigit = true) (stop : NoDigit rest) :
    (digits ++ rest).takeWhile Char.isDigit = digits := by
  rw [List.takeWhile_append_of_pos digit]
  cases rest with
  | nil => simp
  | cons c rest => simp [stop c rfl]

theorem dropWhile_isDigit_append {digits rest : List Char}
    (digit : ∀ c ∈ digits, c.isDigit = true) (stop : NoDigit rest) :
    (digits ++ rest).dropWhile Char.isDigit = rest := by
  rw [List.dropWhile_append_of_pos digit]
  cases rest with
  | nil => rfl
  | cons c rest => simp [stop c rfl]

theorem readFraction_point {fraction rest : List Char} (nonempty : fraction ≠ [])
    (digit : ∀ c ∈ fraction, c.isDigit = true) (stop : NoDigit rest) :
    readFraction ('.' :: (fraction ++ rest)) = some (fraction, rest) := by
  rw [readFraction, takeWhile_isDigit_append digit stop, dropWhile_isDigit_append digit stop]
  cases fraction with
  | nil => exact absurd rfl nonempty
  | cons c fraction => rfl

theorem readFraction_none {text : List Char} (other : ∀ c ∈ text.head?, c ≠ '.') :
    readFraction text = some ([], text) := by
  unfold readFraction
  split
  · exact absurd rfl (other '.' rfl)
  · rfl

theorem readExponent_none {text : List Char} (ends : EndsNumeral text) :
    readExponent text = some (none, text) := by
  cases text with
  | nil => rfl
  | cons c rest =>
    obtain ⟨-, -, lower, upper⟩ := ends c rfl
    simp [readExponent, lower, upper]

theorem readExponent_signed {digits rest : List Char} (negative : Bool) (nonempty : digits ≠ [])
    (digit : ∀ c ∈ digits, c.isDigit = true) (stop : NoDigit rest) :
    readExponent ('e' :: (if negative then '-' else '+') :: (digits ++ rest)) =
      some (some (signed negative digits), rest) := by
  have read : readExponentDigits negative (digits ++ rest) =
      some (some (signed negative digits), rest) := by
    rw [readExponentDigits, takeWhile_isDigit_append digit stop,
      dropWhile_isDigit_append digit stop]
    cases digits with
    | nil => exact absurd rfl nonempty
    | cons c digits => rfl
  cases negative <;> exact read

/-- With one digit less than the limit, the sign does not matter. -/
theorem keepsToLimit_of_length_lt {digits : List Char} (short : digits.length < numberLimit)
    (negative : Bool) : keepsToLimit negative digits = true := by
  rw [keepsToLimit, decide_eq_true_eq]
  split <;> omega

/-- The digits after a point, with the point, or nothing. -/
def pointed : List Char → List Char
  | [] => []
  | fraction => '.' :: fraction

theorem readFraction_pointed {fraction rest : List Char}
    (digit : ∀ c ∈ fraction, c.isDigit = true) (stop : NoDigit rest)
    (other : ∀ c ∈ rest.head?, c ≠ '.') :
    readFraction (pointed fraction ++ rest) = some (fraction, rest) := by
  cases fraction with
  | nil => exact readFraction_none other
  | cons c fraction => exact readFraction_point (List.cons_ne_nil c fraction) digit stop

section Unsigned

variable (Leaf : Type) (negative : Bool) {whole fraction rest : List Char}

/-- The digits before a point are read on their own. -/
theorem readUnsigned_eq (numeral : IsNumeral whole) (stop : NoDigit rest) :
    @readUnsigned Leaf negative (whole ++ rest) =
      if keepsToLimit negative whole then do
        let (fraction, rest) ← readFraction rest
        let (exponent?, rest) ← readExponent rest
        match fraction, exponent? with
        | [], none => some (.integer (signed negative whole), rest)
        | _, _ =>
          let exponent := exponent?.getD 0 - fraction.length
          let significand := Nat.ofDigitChars 10 (whole ++ fraction) 0
          some (.float (.ofDecimal negative significand exponent), rest)
      else none := by
  rw [readUnsigned, takeWhile_isDigit_append numeral.digit stop,
    dropWhile_isDigit_append numeral.digit stop]
  split
  · exact absurd rfl numeral.nonempty
  · next c more _ => exact absurd rfl (numeral.plain _ _)
  · rfl

/-- A whole number is read exactly if it keeps to the limit. -/
theorem readUnsigned_whole (numeral : IsNumeral whole) (ends : EndsNumeral rest) :
    @readUnsigned Leaf negative (whole ++ rest) =
      if keepsToLimit negative whole then some (.integer (signed negative whole), rest)
      else none := by
  rw [readUnsigned_eq Leaf negative numeral ends.noDigit,
    readFraction_none fun c first => (ends c first).2.1]
  simp [readExponent_none ends]

theorem readUnsigned_point (numeral : IsNumeral whole)
    (short : keepsToLimit negative whole = true) (nonempty : fraction ≠ [])
    (digit : ∀ c ∈ fraction, c.isDigit = true) (ends : EndsNumeral rest) :
    @readUnsigned Leaf negative (whole ++ '.' :: (fraction ++ rest)) =
      some (.float (.ofDecimal negative (Nat.ofDigitChars 10 (whole ++ fraction) 0)
        (-fraction.length)), rest) := by
  have stop : NoDigit ('.' :: (fraction ++ rest)) := by
    rintro c ⟨⟩
    rfl
  rw [readUnsigned_eq Leaf negative numeral stop, if_pos short,
    readFraction_point nonempty digit ends.noDigit]
  cases fraction with
  | nil => exact absurd rfl nonempty
  | cons c fraction => simp [readExponent_none ends]

theorem readUnsigned_exponent {power : List Char} (down : Bool) (numeral : IsNumeral whole)
    (short : keepsToLimit negative whole = true) (digit : ∀ c ∈ fraction, c.isDigit = true) (nonempty : power ≠ [])
    (digits : ∀ c ∈ power, c.isDigit = true) (stop : NoDigit rest) :
    @readUnsigned Leaf negative
        (whole ++ (pointed fraction ++ 'e' :: (if down then '-' else '+') :: (power ++ rest))) =
      some (.float (.ofDecimal negative (Nat.ofDigitChars 10 (whole ++ fraction) 0)
        (signed down power - fraction.length)), rest) := by
  have read := readExponent_signed down nonempty digits stop
  generalize (if down then '-' else '+') :: (power ++ rest) = more at read ⊢
  have exponent : NoDigit ('e' :: more) := by
    rintro c ⟨⟩
    rfl
  have other : ∀ c ∈ ('e' :: more).head?, c ≠ '.' := by
    rintro c ⟨⟩
    decide
  have after : NoDigit (pointed fraction ++ 'e' :: more) := by
    cases fraction with
    | nil => exact exponent
    | cons c fraction =>
      rintro c ⟨⟩
      rfl
  rw [readUnsigned_eq Leaf negative numeral after, if_pos short,
    readFraction_pointed digit exponent other]
  cases fraction <;> simp [read]

end Unsigned

/-- Only a text that starts with a digit is read as a number without a sign. -/
theorem exists_digit_of_readUnsigned {Leaf : Type} {negative : Bool} {text : List Char}
    {result : Value Leaf × List Char} (read : readUnsigned negative text = some result) :
    ∃ c rest, text = c :: rest ∧ c.isDigit = true := by
  unfold readUnsigned at read
  cases text with
  | nil => simp at read
  | cons c rest =>
    cases digit : c.isDigit with
    | false => simp [digit] at read
    | true => exact ⟨c, rest, rfl, digit⟩

/-- A text that starts with a digit is read as a number where a scalar stands. -/
theorem readScalar_digit (Leaf : Type) {c : Char} (digit : c.isDigit = true) (rest : List Char) :
    @readScalar Leaf (c :: rest) = readUnsigned false (c :: rest) := by
  unfold readScalar
  split
  all_goals first
    | rfl
    | next same =>
      cases same
      exact absurd digit (by decide)

/-- So is one that starts with a digit after a minus sign. -/
theorem readScalar_minus (Leaf : Type) {c : Char} (digit : c.isDigit = true) (rest : List Char) :
    @readScalar Leaf ('-' :: c :: rest) = readUnsigned true (c :: rest) := by
  have other : c ≠ 'I' := by
    rintro rfl
    cases digit
  simp [readScalar, other]

/-- A numeral starts with a digit. -/
theorem IsNumeral.exists_cons {digits : List Char} (numeral : IsNumeral digits) :
    ∃ c rest, digits = c :: rest ∧ c.isDigit = true := by
  cases digits with
  | nil => exact absurd rfl numeral.nonempty
  | cons c rest => exact ⟨c, rest, rfl, numeral.digit c List.mem_cons_self⟩

end SchemaDesk.Json
