import SchemaDesk.Number.Shortest
import SchemaDesk.Proofs.Number.Decimal

/-!
# Shortest numerals denote their numbers

The search only returns numerals that it has read back, the exact numeral
behind it denotes the number, and leaving out zeros at the end keeps the value.
-/

namespace SchemaDesk.Number

/-- The magnitude that a numeral denotes. -/
def Decimal.magnitude? (decimal : Decimal) : Option Magnitude :=
  Magnitude.ofDecimal? decimal.digits decimal.exponent

namespace Magnitude

variable {magnitude : Magnitude}

theorem denotedBy_iff {decimal : Decimal} :
    magnitude.denotedBy decimal = true ↔ decimal.magnitude? = some magnitude := by
  simp [denotedBy, Decimal.magnitude?]

/-- Only zero has no units. -/
theorem eq_zero_of_units (nothing : magnitude.units = 0) : magnitude = zero := by
  obtain ⟨mantissa, shift, admissible⟩ := magnitude
  have power : Nat.pow 2 shift ≠ 0 := (Nat.two_pow_pos shift).ne'
  obtain rfl : mantissa = 0 := (Nat.mul_eq_zero.mp nothing).resolve_right power
  obtain rfl : shift = 0 := admissible.2.2.resolve_right (by decide)
  rfl

theorem magnitude?_of_onGrid {exponent : Int} {decimal : Decimal}
    (found : magnitude.onGrid? exponent = some decimal) :
    decimal.magnitude? = some magnitude := by
  unfold onGrid? at found
  generalize magnitude.scaled exponent = quotient at found
  obtain ⟨num, den⟩ := quotient
  dsimp only at found
  split at found
  · next below above =>
    cases found
    -- Both neighbours denote the number, and rounding takes one of them.
    rcases roundHalfEven_eq_or num den with down | up
    · rw [down]
      exact denotedBy_iff.mp below
    · rw [up]
      exact denotedBy_iff.mp above
  · next below _ =>
    cases found
    exact denotedBy_iff.mp below
  · next _ above =>
    cases found
    exact denotedBy_iff.mp above
  · cases found

theorem magnitude?_of_firstOnGrids {leading : Int} {counts : List Nat} {decimal : Decimal}
    (found : magnitude.firstOnGrids leading counts = some decimal) :
    decimal.magnitude? = some magnitude := by
  induction counts with
  | nil => cases found
  | cons count counts ih =>
    rw [firstOnGrids] at found
    split at found
    · next here =>
      cases found
      exact magnitude?_of_onGrid here
    · exact ih found

/-- Powers of five are long enough not to be mistaken for numerals that denote zero. -/
theorem magnitude?_exactDecimal (something : magnitude.units ≠ 0) :
    magnitude.exactDecimal.magnitude? = some magnitude := by
  obtain ⟨unit, same⟩ : ∃ unit, unit = 1074 := ⟨_, rfl⟩
  have mantissa : magnitude.mantissa ≠ 0 := fun nothing => something (by simp [units, nothing])
  unfold exactDecimal Decimal.magnitude?
  split
  · next large =>
    have power : Nat.pow 2 (magnitude.shift - 1074) ≠ 0 := (Nat.two_pow_pos _).ne'
    have digits : magnitude.mantissa * Nat.pow 2 (magnitude.shift - 1074) ≠ 0 :=
      Nat.mul_ne_zero mantissa power
    refine (ofDecimal?_natCast digits 0).trans (nearest?_of_exact magnitude (by decide) ?_)
    rw [unitsInOne_eq same, units, Nat.pow_zero, Nat.mul_one, Nat.mul_one, Nat.mul_assoc,
      Nat.pow_eq, ← Nat.pow_add, ← same, Nat.sub_add_cancel (by omega), Nat.pow_eq]
  · next small =>
    -- A negative power of two is a power of five with the point moved as far.
    obtain ⟨places, missing⟩ : ∃ places, magnitude.shift + places = 1074 :=
      ⟨1074 - magnitude.shift, by omega⟩
    have places_eq : 1074 - magnitude.shift = places := by omega
    have exponent : Int.negSucc (1073 - magnitude.shift) = -(places : Int) := by omega
    have digits : magnitude.mantissa * Nat.pow 5 places ≠ 0 :=
      Nat.mul_ne_zero mantissa (Nat.pow_pos (by decide) : 0 < 5 ^ places).ne'
    simp only [places_eq, exponent]
    rw [ofDecimal?_neg digits]
    refine nearest?_of_exact magnitude (Nat.pow_pos (by decide)) ?_
    rw [unitsInOne_eq (missing.trans rfl), units]
    simp only [Nat.pow_eq]
    rw [Nat.pow_add, show (10 : Nat) = 5 * 2 from rfl, Nat.mul_pow]
    exact Nat.mul_mul_mul_comm ..

end Magnitude

/-- Zeros at the end of a numeral stand for a power of ten. -/
theorem pow_ten_dvd_of_zeros (n : Nat) :
    10 ^ ((Nat.toDigits 10 n).reverse.takeWhile (· == '0')).length ∣ n := by
  generalize text : (Nat.toDigits 10 n).reverse = reversed
  generalize zeros : reversed.takeWhile (· == '0') = ending
  have uniform : ending = List.replicate ending.length '0' := by
    refine List.eq_replicate_iff.mpr ⟨rfl, fun c inside => ?_⟩
    have all : (reversed.takeWhile (· == '0')).all (· == '0') = true := List.all_takeWhile
    rw [zeros, List.all_eq_true] at all
    simpa using all c inside
  have parts : ending ++ reversed.dropWhile (· == '0') = reversed := by
    rw [← zeros, List.takeWhile_append_dropWhile]
  have split : Nat.toDigits 10 n =
      (reversed.dropWhile (· == '0')).reverse ++ List.replicate ending.length '0' := by
    calc Nat.toDigits 10 n = reversed.reverse := by rw [← text, List.reverse_reverse]
      _ = (reversed.dropWhile (· == '0')).reverse ++ ending.reverse := by
        conv_lhs => rw [← parts, List.reverse_append]
      _ = _ := by
        conv_lhs => rw [uniform, List.reverse_replicate]
  have value := @Nat.ofDigitChars_ten_toDigits n
  rw [split, Nat.ofDigitChars_append, Nat.ofDigitChars_replicate_zero] at value
  exact ⟨_, value.symm⟩

/-- Leaving out zeros at the end of the digits keeps the value. -/
theorem Decimal.magnitude?_trim (decimal : Decimal) :
    decimal.trim.magnitude? = decimal.magnitude? := by
  obtain ⟨digits, exponent⟩ := decimal
  simp only [trim, magnitude?]
  have divides := pow_ten_dvd_of_zeros digits
  generalize ((Nat.toDigits 10 digits).reverse.takeWhile (· == '0')).length = count at *
  have shortened := Magnitude.ofDecimal?_mul_ten_pow (digits / 10 ^ count) count (exponent + count)
  rw [Nat.div_mul_cancel divides, Int.add_sub_cancel] at shortened
  exact shortened.symm

theorem Magnitude.magnitude?_shortest (magnitude : Magnitude) :
    magnitude.shortest.magnitude? = some magnitude := by
  unfold shortest
  split
  · next nothing =>
    rw [eq_zero_of_units nothing]
    rfl
  · next something =>
    rw [Decimal.magnitude?_trim]
    cases found : magnitude.firstOnGrids magnitude.leadingExponent
        ((List.range 17).map (· + 1)) with
    | none => exact magnitude?_exactDecimal something
    | some decimal => exact magnitude?_of_firstOnGrids found

/-- The numeral of zero is a bare zero. -/
theorem Magnitude.exponent_shortest {magnitude : Magnitude}
    (nothing : magnitude.shortest.digits = 0) : magnitude.shortest.exponent = 0 := by
  have denoted := magnitude.magnitude?_shortest
  rw [Decimal.magnitude?, nothing, ofDecimal?, if_pos rfl] at denoted
  cases denoted
  rfl

end SchemaDesk.Number
