import Mathlib.Algebra.Order.Ring.Nat
import SchemaDesk.Proofs.Number.Rounding

/-!
# The range of binary floating point

A whole number has a floating-point value unless it rounds to 2 ^ 1024 or
beyond. Numbers do so from half a last place above the largest magnitude on,
which is 2 ^ 970 below that power.
-/

namespace SchemaDesk.Number

/-- A quotient rounds up to an even number exactly from half below it on: that half is a tie, and
ties go to the even number. -/
theorem le_roundHalfEven_iff {num den bound : Nat} (positive : 0 < den) (even : bound % 2 = 0) :
    bound ≤ roundHalfEven num den ↔ 2 * (bound * den) ≤ 2 * num + den := by
  have whole : num / den * den + num % den = num := Nat.div_add_mod' num den
  have rest : num % den < den := Nat.mod_lt num positive
  rcases Nat.lt_trichotomy (num / den + 1) bound with above | here | below
  · have rounded : roundHalfEven num den ≤ num / den + 1 := by
      rcases roundHalfEven_eq_or num den with down | up <;> omega
    have product : (num / den + 2) * den ≤ bound * den := Nat.mul_le_mul_right den above
    rw [Nat.add_mul] at product
    omega
  · subst here
    have odd : num / den % 2 ≠ 0 := by omega
    rw [Nat.add_mul]
    simp only [roundHalfEven, if_neg odd]
    split
    · omega
    · split <;> omega
  · have rounded : num / den ≤ roundHalfEven num den := by
      rcases roundHalfEven_eq_or num den with down | up <;> omega
    have product : bound * den ≤ num / den * den :=
      Nat.mul_le_mul_right den (Nat.le_of_lt_succ below)
    omega

/-- The mantissa of a rounded number has 53 bits, or it is the next power of two. -/
theorem roundHalfEven_bounds {num bits : Nat} (enough : 52 ≤ bits) (low : 2 ^ bits ≤ num)
    (high : num < 2 ^ (bits + 1)) :
    2 ^ 52 ≤ roundHalfEven num (2 ^ (bits - 52)) ∧
      roundHalfEven num (2 ^ (bits - 52)) ≤ 2 ^ 53 := by
  obtain ⟨shift, rfl⟩ : ∃ shift, bits = 52 + shift := ⟨bits - 52, by omega⟩
  rw [Nat.add_sub_cancel_left]
  rw [Nat.pow_add] at low
  rw [Nat.add_right_comm, Nat.pow_add] at high
  have positive : 0 < 2 ^ shift := Nat.two_pow_pos shift
  have least : 2 ^ 52 ≤ num / 2 ^ shift := (Nat.le_div_iff_mul_le positive).mpr low
  have most : num / 2 ^ shift < 2 ^ 53 := (Nat.div_lt_iff_lt_mul positive).mpr high
  rcases roundHalfEven_eq_or num (2 ^ shift) with down | up <;> omega

namespace Magnitude

theorem ofParts?_eq_none_iff {mantissa shift : Nat} :
    ofParts? mantissa shift = none ↔ ¬ Admissible mantissa shift := by
  simp [ofParts?]

/-- A number has no nearest magnitude if it has more bits than the largest one, or as many and its
mantissa is rounded to the next power of two. -/
theorem nearest?_eq_none_iff {n bits unit : Nat} (same : unit = 1074) (low : 2 ^ bits ≤ n)
    (high : n < 2 ^ (bits + 1)) :
    nearest? n 1 = none ↔ 1024 ≤ bits ∨
      bits = 1023 ∧ 2 ^ 53 ≤ roundHalfEven (n * 2 ^ unit) (2 ^ (bits + unit - 52)) := by
  have nonzero : n * 2 ^ unit ≠ 0 := by
    have first := Nat.two_pow_pos bits
    have second := Nat.two_pow_pos unit
    exact Nat.mul_ne_zero (by omega) (by omega)
  have lowUnits : 2 ^ (bits + unit) ≤ n * 2 ^ unit := by
    rw [Nat.pow_add]
    exact Nat.mul_le_mul_right _ low
  have highUnits : n * 2 ^ unit < 2 ^ (bits + unit + 1) := by
    rw [Nat.add_right_comm, Nat.pow_add]
    exact Nat.mul_lt_mul_of_pos_right high (Nat.two_pow_pos unit)
  have size : Nat.log2 (n * 2 ^ unit) = bits + unit :=
    (Nat.log2_eq_iff nonzero).mpr ⟨lowUnits, highUnits⟩
  obtain ⟨least, most⟩ := roundHalfEven_bounds (by omega) lowUnits highUnits
  simp only [nearest?, unitsInOne_eq same, Nat.div_one, size, Nat.one_mul, Nat.pow_eq]
  generalize roundHalfEven (n * 2 ^ unit) (2 ^ (bits + unit - 52)) = mantissa at *
  -- Rounding up to a power of two takes one more place, so 1024 bits may be one too many.
  split
  · next full =>
    simp only [ofParts?_eq_none_iff, Admissible, Nat.pow_eq]
    omega
  · next short =>
    simp only [ofParts?_eq_none_iff, Admissible, Nat.pow_eq]
    omega

end Magnitude

/-- A whole number rounds beyond the largest magnitude exactly from half a last place above it on. -/
theorem exceedsBinary64_iff (n : Int) :
    exceedsBinary64 n = true ↔ 2 ^ 1024 ≤ n.natAbs + 2 ^ 970 := by
  obtain ⟨unit, same⟩ : ∃ unit, unit = 1074 := ⟨_, rfl⟩
  rw [exceedsBinary64, Option.isNone_iff_eq_none]
  generalize n.natAbs = size
  rcases Nat.eq_zero_or_pos size with rfl | positive
  · rw [Magnitude.nearest?_of_tiny (by simp), iff_comm, iff_false_right nofun]
    omega
  have low : 2 ^ Nat.log2 size ≤ size := Nat.log2_self_le positive.ne'
  have high : size < 2 ^ (Nat.log2 size + 1) := Nat.lt_log2_self
  rw [Magnitude.nearest?_eq_none_iff same low high]
  generalize Nat.log2 size = bits at *
  rcases Nat.lt_trichotomy bits 1023 with fewer | here | more
  · have bound := Nat.pow_le_pow_right Nat.two_pos fewer
    omega
  · subst here
    have exponent : 1023 + unit - 52 = unit + 971 := by omega
    rw [exponent, Nat.pow_add, Nat.mul_comm size, roundHalfEven_mul_left (Nat.two_pow_pos unit),
      le_roundHalfEven_iff (Nat.two_pow_pos 971) (by decide)]
    omega
  · have bound := Nat.pow_le_pow_right Nat.two_pos more
    omega

end SchemaDesk.Number
