import SchemaDesk.Json.Writer
import SchemaDesk.Proofs.Json.Numeral
import SchemaDesk.Proofs.Number.Notation
import SchemaDesk.Proofs.Number.Shortest

/-!
# Written numbers are read back

A whole number comes back as a whole number, unless its text exceeds the limit
of the reader, and a finite floating-point number as the same floating-point
number, since its text always has a point or an exponent, and few digits before
it. Every layout of a decimal numeral keeps the value of the numeral.
-/

namespace SchemaDesk

namespace Number

theorem ofDigitChars_natText (n : Nat) : Nat.ofDigitChars 10 (natText n) 0 = n :=
  Nat.ofDigitChars_ten_toDigits

/-- Only the numeral of zero starts with a zero. -/
theorem eq_zero_of_natText_eq {n : Nat} {rest : List Char} (text : natText n = '0' :: rest) :
    n = 0 := by
  -- Dropping the last digit keeps the first one, until a single digit is left.
  induction n using Nat.strongRecOn generalizing rest with
  | ind n ih =>
    unfold natText at text ih
    rcases Nat.lt_or_ge n 10 with small | large
    · rw [Nat.toDigits_of_lt_base small] at text
      exact Nat.digitChar_eq_zero.mp (List.cons.inj text).1
    · rw [Nat.toDigits_of_base_le (by decide) large] at text
      cases leading : Nat.toDigits 10 (n / 10) with
      | nil => exact absurd leading Nat.toDigits_ne_nil
      | cons c more =>
        rw [leading] at text
        obtain rfl := (List.cons.inj text).1
        have tenth := ih (n / 10) (by omega) leading
        omega

theorem isNumeral_natText (n : Nat) : Json.IsNumeral (natText n) where
  digit := isDigit_of_mem_natText
  nonempty := natText_ne_nil n
  plain c rest text := by
    obtain rfl := eq_zero_of_natText_eq text
    cases text

end Number

namespace Json.IsNumeral

theorem zero : IsNumeral ['0'] := by
  constructor <;> simp

/-- A numeral other than zero may be followed by zeros. -/
theorem append_zeros {digits : List Char} (numeral : IsNumeral digits) {count : Nat}
    (bare : digits = ['0'] → count = 0) : IsNumeral (digits ++ List.replicate count '0') where
  digit c inside := by
    rcases List.mem_append.mp inside with inside | inside
    · exact numeral.digit c inside
    · exact Number.isDigit_of_mem_zeros c inside
  nonempty := List.append_ne_nil_of_left_ne_nil numeral.nonempty _
  plain c rest text := by
    match digits with
    | [] => exact numeral.nonempty rfl
    | [d] =>
      obtain rfl := (List.cons.inj text).1
      rw [bare rfl] at text
      cases text
    | d :: e :: more =>
      obtain rfl := (List.cons.inj text).1
      exact numeral.plain e more rfl

/-- The first digits of a numeral are one. -/
theorem take {digits : List Char} (numeral : IsNumeral digits) {count : Nat}
    (positive : 0 < count) : IsNumeral (digits.take count) where
  digit c inside := numeral.digit c (List.mem_of_mem_take inside)
  nonempty empty := by
    rcases List.take_eq_nil_iff.mp empty with nothing | nothing
    · omega
    · exact numeral.nonempty nothing
  plain c rest text := by
    have whole := List.take_append_drop count digits
    rw [text] at whole
    exact numeral.plain c _ whole.symm

end Json.IsNumeral

namespace Number

theorem Binary64.ofDecimal_mul_ten_pow (negative : Bool) (digits count : Nat) (exponent : Int) :
    Binary64.ofDecimal negative (digits * 10 ^ count) (exponent - count) =
      Binary64.ofDecimal negative digits exponent := by
  rw [Binary64.ofDecimal, Magnitude.ofDecimal?_mul_ten_pow, Binary64.ofDecimal]

theorem ofDigitChars_zeros_append (count : Nat) (digits : List Char) :
    Nat.ofDigitChars 10 (List.replicate count '0' ++ digits) 0 = Nat.ofDigitChars 10 digits 0 := by
  rw [Nat.ofDigitChars_append, Nat.ofDigitChars_replicate_zero, Nat.mul_zero]

/-- Reading a numeral with a point gives the number that it was written for. -/
theorem readUnsigned_positionalText (Leaf : Type) (negative : Bool) {digits : Nat} {exponent : Int}
    {rest : List Char} (below : (natText digits).length - 1 + exponent < positionalLimit)
    (bare : digits = 0 → exponent = 0) (ends : Json.EndsNumeral rest) :
    @Json.readUnsigned Leaf negative (positionalText (natText digits) exponent ++ rest) =
      some (.float (.ofDecimal negative digits exponent), rest) := by
  have length := List.length_pos_iff.mpr (natText_ne_nil digits)
  -- Before the point stand at most as many digits as the leading exponent says, and one more.
  have short {whole : List Char} (few : whole.length ≤ 16) :
      Json.keepsToLimit negative whole = true :=
    Json.keepsToLimit_of_length_lt (by rw [Json.numberLimit]; omega) negative
  rw [positionalLimit] at below
  unfold positionalText
  dsimp only
  split
  · next low =>
    -- All digits stand behind the point.
    generalize zeros : (-((natText digits).length + exponent)).toNat = count
    have fraction : ∀ c ∈ List.replicate count '0' ++ natText digits, c.isDigit = true :=
      List.forall_mem_append.mpr ⟨isDigit_of_mem_zeros, isDigit_of_mem_natText⟩
    have value : Nat.ofDigitChars 10 (['0'] ++ (List.replicate count '0' ++ natText digits)) 0 =
        digits :=
      (ofDigitChars_zeros_append (count + 1) _).trans (ofDigitChars_natText digits)
    have read := Json.readUnsigned_point Leaf negative .zero (short (by decide))
      (List.append_ne_nil_of_right_ne_nil _ (natText_ne_nil digits)) fraction ends
    have places : -((List.replicate count '0' ++ natText digits).length : Int) = exponent := by
      rw [List.length_append, List.length_replicate]
      omega
    rw [value, places] at read
    simpa using read
  · split
    · next high whole =>
      -- The point stands behind all digits, and a zero behind the point.
      obtain ⟨count, rfl⟩ : ∃ count : Nat, exponent = count := ⟨exponent.toNat, by omega⟩
      have single : natText digits = ['0'] → count = 0 := fun text => by
        have whole := bare (eq_zero_of_natText_eq text)
        omega
      have numeral := (isNumeral_natText digits).append_zeros single
      have few : (natText digits ++ List.replicate count '0').length ≤ 16 := by
        rw [List.length_append, List.length_replicate]
        omega
      have value : Nat.ofDigitChars 10 (natText digits ++ List.replicate count '0' ++ ['0']) 0 =
          digits * 10 ^ (count + 1) := by
        rw [List.append_assoc, ← List.replicate_succ', Nat.ofDigitChars_append,
          Nat.ofDigitChars_replicate_zero, ofDigitChars_natText, Nat.mul_comm]
      have read := Json.readUnsigned_point Leaf negative numeral (short few)
        (List.cons_ne_nil '0' []) Json.IsNumeral.zero.digit ends
      have places : -(['0'].length : Int) = (count : Int) - (count + 1 : Nat) := by
        rw [List.length_singleton]
        omega
      rw [value, places, Binary64.ofDecimal_mul_ten_pow] at read
      simpa using read
    · next high fractional =>
      -- The point stands between the digits.
      generalize place : ((natText digits).length + exponent).toNat = count
      have within : count < (natText digits).length := by omega
      have numeral := (isNumeral_natText digits).take (show 0 < count by omega)
      have fraction : ∀ c ∈ (natText digits).drop count, c.isDigit = true :=
        fun c inside => isDigit_of_mem_natText c (List.mem_of_mem_drop inside)
      have something : (natText digits).drop count ≠ [] :=
        fun nothing => Nat.not_le.mpr within (List.drop_eq_nil_iff.mp nothing)
      have few : ((natText digits).take count).length ≤ 16 := by
        rw [List.length_take]
        omega
      have read := Json.readUnsigned_point Leaf negative numeral (short few) something fraction ends
      have places : -(((natText digits).drop count).length : Int) = exponent := by
        rw [List.length_drop]
        omega
      rw [List.take_append_drop, ofDigitChars_natText, places] at read
      simpa using read

/-- Reading a numeral with an exponent gives the number that it was written for. -/
theorem readUnsigned_scientificText (Leaf : Type) (negative : Bool) (width digits : Nat)
    (exponent : Int) {rest : List Char} (stop : Json.NoDigit rest) :
    @Json.readUnsigned Leaf negative
        (scientificText width (natText digits)
          ((natText digits).length - 1 + exponent) ++ rest) =
      some (.float (.ofDecimal negative digits exponent), rest) := by
  have length := List.length_pos_iff.mpr (natText_ne_nil digits)
  generalize leading : ((natText digits).length - 1 + exponent : Int) = power
  have numeral := (isNumeral_natText digits).take Nat.one_pos
  have short : Json.keepsToLimit negative ((natText digits).take 1) = true := by
    refine Json.keepsToLimit_of_length_lt ?_ negative
    rw [List.length_take, Json.numberLimit]
    omega
  have fraction : ∀ c ∈ (natText digits).drop 1, c.isDigit = true :=
    fun c inside => isDigit_of_mem_natText c (List.mem_of_mem_drop inside)
  -- The text, cut where the reader cuts it.
  have shape : scientificText width (natText digits) power ++ rest =
      (natText digits).take 1 ++ (Json.pointed ((natText digits).drop 1) ++
        'e' :: (if decide (power < 0) then '-' else '+') ::
          (List.replicate (width - (natText power.natAbs).length) '0' ++
            natText power.natAbs ++ rest)) := by
    unfold scientificText
    cases (natText digits).drop 1 <;> simp [Json.pointed, exponentText]
  have digit : ∀ c ∈ List.replicate (width - (natText power.natAbs).length) '0' ++
      natText power.natAbs, c.isDigit = true :=
    List.forall_mem_append.mpr ⟨isDigit_of_mem_zeros, isDigit_of_mem_natText⟩
  have read := Json.readUnsigned_exponent Leaf negative (decide (power < 0)) numeral short
    fraction (List.append_ne_nil_of_right_ne_nil _ (natText_ne_nil power.natAbs)) digit stop
  have places : Json.signed (decide (power < 0))
      (List.replicate (width - (natText power.natAbs).length) '0' ++ natText power.natAbs) -
        ((natText digits).drop 1).length = exponent := by
    rw [Json.signed, ofDigitChars_zeros_append, ofDigitChars_natText, List.length_drop]
    simp only [decide_eq_true_eq]
    split <;> omega
  rw [shape, read, List.take_append_drop, ofDigitChars_natText, places]

/-- Reading a written numeral gives the number that it denotes, whatever the layout. -/
theorem readUnsigned_decimalText (Leaf : Type) (negative : Bool) (layout : Layout)
    {decimal : Decimal} {rest : List Char} (bare : decimal.digits = 0 → decimal.exponent = 0)
    (ends : Json.EndsNumeral rest) :
    @Json.readUnsigned Leaf negative (decimalText layout decimal ++ rest) =
      some (.float (.ofDecimal negative decimal.digits decimal.exponent), rest) := by
  unfold decimalText
  dsimp only
  split
  · next positional => exact readUnsigned_positionalText Leaf negative positional.2 bare ends
  · exact readUnsigned_scientificText Leaf negative _ _ _ ends.noDigit

theorem readUnsigned_shortest (Leaf : Type) (negative : Bool) (layout : Layout)
    (magnitude : Magnitude) {rest : List Char} (ends : Json.EndsNumeral rest) :
    @Json.readUnsigned Leaf negative (decimalText layout magnitude.shortest ++ rest) =
      some (.float (.finite negative magnitude), rest) := by
  rw [readUnsigned_decimalText Leaf negative layout Magnitude.exponent_shortest ends,
    Binary64.ofDecimal]
  have denoted := magnitude.magnitude?_shortest
  rw [Decimal.magnitude?] at denoted
  rw [denoted]

/-- A finite number is read back from its text, whatever the layout. -/
theorem readScalar_finiteText (Leaf : Type) (layout : Layout) (negative : Bool)
    (magnitude : Magnitude) {rest : List Char} (ends : Json.EndsNumeral rest) :
    @Json.readScalar Leaf (finiteText layout negative magnitude ++ rest) =
      some (.float (.finite negative magnitude), rest) := by
  have read := readUnsigned_shortest Leaf negative layout magnitude ends
  -- What is read as a number starts with a digit.
  obtain ⟨c, more, text, digit⟩ := Json.exists_digit_of_readUnsigned read
  cases negative with
  | false =>
    rw [finiteText, if_neg Bool.false_ne_true, text, Json.readScalar_digit Leaf digit, ← text, read]
  | true =>
    rw [finiteText, if_pos rfl, List.cons_append, text, Json.readScalar_minus Leaf digit, ← text,
      read]

/-- A whole number is read back from its text exactly if the text, sign included, keeps to the
limit of the reader. -/
theorem readScalar_intText (Leaf : Type) (n : Int) {rest : List Char}
    (ends : Json.EndsNumeral rest) :
    @Json.readScalar Leaf (intText n ++ rest) =
      if (intText n).length ≤ Json.numberLimit then some (.integer n, rest) else none := by
  have numeral := isNumeral_natText n.natAbs
  obtain ⟨c, more, text, digit⟩ := numeral.exists_cons
  have read (negative : Bool) := Json.readUnsigned_whole Leaf negative numeral ends
  simp only [Json.signed, ofDigitChars_natText, Json.keepsToLimit, decide_eq_true_eq] at read
  unfold intText
  split
  · next below =>
    have same : -(n.natAbs : Int) = n := by omega
    have minus := read true
    rw [if_pos rfl, if_pos rfl, same, Nat.add_comm] at minus
    rw [List.cons_append, text, List.cons_append, Json.readScalar_minus Leaf digit,
      ← List.cons_append, ← text, minus, List.length_cons]
  · next above =>
    have same : (n.natAbs : Int) = n := by omega
    have plain := read false
    rw [if_neg Bool.false_ne_true, if_neg Bool.false_ne_true, same, Nat.zero_add] at plain
    rw [text, List.cons_append, Json.readScalar_digit Leaf digit, ← List.cons_append, ← text, plain]

end Number

end SchemaDesk
