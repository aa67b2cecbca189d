import Mathlib.Algebra.Order.Ring.Nat
import SchemaDesk.Number.Binary64

/-!
# Rounding to the nearest magnitude

The nearest magnitude depends only on the quotient, not on the numbers that
form it. A quotient that a magnitude equals rounds to that magnitude, a quotient
below half a unit rounds to zero, and one of at least 2 ^ 1024 is too large.
-/

namespace SchemaDesk.Number

theorem roundHalfEven_mul_left {factor : Nat} (positive : 0 < factor) (num den : Nat) :
    roundHalfEven (factor * num) (factor * den) = roundHalfEven num den := by
  have scaled (n : Nat) : 2 * (factor * n) = factor * (2 * n) := Nat.mul_left_comm ..
  simp only [roundHalfEven, Nat.mul_div_mul_left num den positive, Nat.mul_mod_mul_left, scaled,
    Nat.mul_lt_mul_left positive]

theorem roundHalfEven_mul_self (n : Nat) {den : Nat} (positive : 0 < den) :
    roundHalfEven (n * den) den = n := by
  simp [roundHalfEven, Nat.mul_div_cancel n positive, positive]

theorem roundHalfEven_eq_zero {num den : Nat} (small : 2 * num < den) :
    roundHalfEven num den = 0 := by
  have below : num < den := by omega
  simp [roundHalfEven, Nat.div_eq_of_lt below, Nat.mod_eq_of_lt below, small]

/-- Rounding goes to the whole number below the quotient or to the one above. -/
theorem roundHalfEven_eq_or (num den : Nat) :
    roundHalfEven num den = num / den ∨ roundHalfEven num den = num / den + 1 := by
  simp only [roundHalfEven]
  split <;> [skip; split <;> [skip; split]] <;> simp

theorem unitsInOne_eq {size : Nat} (same : size = 1074) : unitsInOne = 2 ^ size := by
  unfold unitsInOne
  rw [← same]
  rfl

namespace Magnitude

theorem ofParts?_self (magnitude : Magnitude) :
    ofParts? magnitude.mantissa magnitude.shift = some magnitude := by
  simp [ofParts?, magnitude.admissible]

/-- The shift can be told from the size of a magnitude. -/
theorem log2_units_sub (magnitude : Magnitude) :
    Nat.log2 magnitude.units - 52 = magnitude.shift := by
  obtain ⟨mantissa, shift, small, -, least⟩ := magnitude
  simp only [units, Nat.pow_eq] at *
  -- A magnitude with fewer than 53 bits has no shift; any other has exactly 53 above its shift.
  rcases least with rfl | normal
  · rw [Nat.pow_zero, Nat.mul_one]
    by_cases nothing : mantissa = 0
    · rw [nothing, Nat.log2_zero]
    · have bits : Nat.log2 mantissa < 53 := (Nat.log2_lt nothing).mpr small
      omega
  · have low : 2 ^ (52 + shift) ≤ mantissa * 2 ^ shift := by
      rw [Nat.pow_add]
      exact Nat.mul_le_mul_right _ normal
    have high : mantissa * 2 ^ shift < 2 ^ (52 + shift + 1) := by
      rw [Nat.add_right_comm, Nat.pow_add]
      exact Nat.mul_lt_mul_of_pos_right small (Nat.two_pow_pos shift)
    have nonzero : mantissa * 2 ^ shift ≠ 0 := (Nat.lt_of_lt_of_le (Nat.two_pow_pos _) low).ne'
    rw [(Nat.log2_eq_iff nonzero).mpr ⟨low, high⟩, Nat.add_sub_cancel_left]

/-- The nearest magnitude depends only on the quotient. -/
theorem nearest?_mul_left {factor : Nat} (positive : 0 < factor) (num den : Nat) :
    nearest? (factor * num) (factor * den) = nearest? num den := by
  simp only [nearest?, Nat.mul_assoc, Nat.mul_div_mul_left _ den positive,
    roundHalfEven_mul_left positive]

/-- A magnitude is the nearest one to itself. -/
theorem nearest?_of_exact (magnitude : Magnitude) {num den : Nat} (positive : 0 < den)
    (exact : num * unitsInOne = magnitude.units * den) :
    nearest? num den = some magnitude := by
  have quotient : num * unitsInOne / den = magnitude.units := by
    rw [exact, Nat.mul_div_cancel _ positive]
  have rounded : roundHalfEven (num * unitsInOne) (den * Nat.pow 2 magnitude.shift) =
      magnitude.mantissa := by
    rw [exact, units, Nat.mul_assoc, Nat.mul_comm (Nat.pow 2 _) den]
    exact roundHalfEven_mul_self _ (Nat.mul_pos positive (Nat.pow_pos (by decide)))
  have short : magnitude.mantissa ≠ Nat.pow 2 53 := magnitude.admissible.1.ne
  simp only [nearest?, quotient, log2_units_sub, rounded, if_neg short, ofParts?_self]

/-- Less than half a unit rounds to zero. -/
theorem nearest?_of_tiny {num den : Nat} (tiny : 2 * (num * unitsInOne) < den) :
    nearest? num den = some zero := by
  have below : num * unitsInOne / den = 0 := Nat.div_eq_of_lt (by omega)
  have rounded : roundHalfEven (num * unitsInOne) (den * Nat.pow 2 0) = 0 :=
    roundHalfEven_eq_zero (by simpa using tiny)
  simp only [nearest?, below, Nat.log2_zero, Nat.zero_sub, rounded]
  rfl

/-- No magnitude is near to a number that needs more than 1024 bits. -/
theorem nearest?_of_huge {num size : Nat} (large : 1024 ≤ size) (huge : 2 ^ size ≤ num) :
    nearest? num 1 = none := by
  -- With a variable in the exponent, no step computes the power.
  obtain ⟨unit, same⟩ : ∃ unit, unit = 1074 := ⟨_, rfl⟩
  have product : 2 ^ (size + unit) ≤ num * unitsInOne := by
    rw [unitsInOne_eq same, Nat.pow_add]
    exact Nat.mul_le_mul_right _ huge
  have nonzero : num * unitsInOne ≠ 0 := (Nat.lt_of_lt_of_le (Nat.two_pow_pos _) product).ne'
  have bits : size + unit ≤ Nat.log2 (num * unitsInOne / 1) := by
    rw [Nat.div_one]
    exact (Nat.le_log2 nonzero).mpr product
  have inadmissible (mantissa shift : Nat) (beyond : 2045 < shift) :
      ofParts? mantissa shift = none := by
    simp [ofParts?, Admissible, Nat.not_le.mpr beyond]
  simp only [nearest?]
  split
  · exact inadmissible _ _ (by omega)
  · exact inadmissible _ _ (by omega)

end Magnitude

end SchemaDesk.Number
