import SchemaDesk.Proofs.Number.Rounding

/-!
# Magnitudes of decimal numerals

Settling exponents outside the range of the format in advance changes no result:
a numeral denotes the magnitude nearest to its value. So numerals of one value
denote one magnitude, and zeros at the end of the digits do not count.
-/

namespace SchemaDesk.Number.Magnitude

theorem two_pow_three_mul_le (n : Nat) : 2 ^ (3 * n) ≤ 10 ^ n := by
  rw [Nat.pow_mul]
  exact Nat.pow_le_pow_left (by decide) n

/-- A numeral with a large exponent denotes no magnitude. -/
theorem nearest?_of_large {digits n : Nat} (nonzero : digits ≠ 0) (large : 400 < n) :
    nearest? (digits * 10 ^ n) 1 = none := by
  have power : 2 ^ (3 * n) ≤ digits * 10 ^ n :=
    (two_pow_three_mul_le n).trans (Nat.le_mul_of_pos_left _ (Nat.pos_of_ne_zero nonzero))
  exact nearest?_of_huge (by omega) power

/-- A numeral with a small exponent denotes zero. -/
theorem nearest?_of_small {digits n : Nat} (small : Nat.log2 digits + 400 < n) :
    nearest? digits (10 ^ n) = some zero := by
  obtain ⟨unit, same⟩ : ∃ unit, unit = 1074 := ⟨_, rfl⟩
  refine nearest?_of_tiny ?_
  rw [unitsInOne_eq same]
  calc
    2 * (digits * 2 ^ unit) < 2 * (2 ^ (Nat.log2 digits + 1) * 2 ^ unit) := by
      have bits : digits < 2 ^ (Nat.log2 digits + 1) := Nat.lt_log2_self
      have product := Nat.mul_lt_mul_of_pos_right bits (Nat.two_pow_pos unit)
      omega
    _ = 2 ^ (Nat.log2 digits + 1 + unit + 1) := by rw [← Nat.pow_add, ← Nat.pow_succ']
    _ ≤ 2 ^ (3 * n) := Nat.pow_le_pow_right (by decide) (by omega)
    _ ≤ 10 ^ n := two_pow_three_mul_le n

/-- A numeral with zeros after its digits denotes the magnitude nearest to its value. -/
theorem ofDecimal?_natCast {digits : Nat} (nonzero : digits ≠ 0) (n : Nat) :
    ofDecimal? digits n = nearest? (digits * 10 ^ n) 1 := by
  unfold ofDecimal?
  rw [if_neg nonzero]
  split
  · next large => rw [nearest?_of_large nonzero (by omega)]
  · rw [if_pos (by omega)]
    rfl

/-- A numeral with a point denotes the magnitude nearest to its value. -/
theorem ofDecimal?_neg {digits : Nat} (nonzero : digits ≠ 0) (n : Nat) :
    ofDecimal? digits (-n) = nearest? digits (10 ^ n) := by
  rcases Nat.eq_zero_or_pos n with rfl | positive
  · rw [Int.natCast_zero, Int.neg_zero, ← Int.natCast_zero, ofDecimal?_natCast nonzero,
      Nat.pow_zero, Nat.mul_one]
  · unfold ofDecimal?
    rw [if_neg nonzero, if_neg (by omega), if_neg (by omega), Int.neg_neg, Int.toNat_natCast]
    split
    · next small => rw [nearest?_of_small small]
    · rfl

/-- A zero at the end of the digits is one in the exponent. -/
theorem ofDecimal?_mul_ten (digits : Nat) (exponent : Int) :
    ofDecimal? (digits * 10) (exponent - 1) = ofDecimal? digits exponent := by
  by_cases zero : digits = 0
  · simp [ofDecimal?, zero]
  have nonzero : digits * 10 ≠ 0 := by omega
  -- The value is a product for an exponent above zero, and a quotient otherwise.
  rcases Int.lt_or_le 0 exponent with positive | negative
  · obtain ⟨n, rfl⟩ : ∃ n : Nat, exponent = n + 1 := ⟨(exponent - 1).toNat, by omega⟩
    rw [Int.add_sub_cancel, ofDecimal?_natCast nonzero, ← Int.natCast_succ,
      ofDecimal?_natCast zero, Nat.pow_succ', Nat.mul_assoc]
  · obtain ⟨n, rfl⟩ : ∃ n : Nat, exponent = -n := ⟨(-exponent).toNat, by omega⟩
    have shifted : -(n : Int) - 1 = -((n + 1 : Nat) : Int) := by omega
    rw [shifted, ofDecimal?_neg nonzero, ofDecimal?_neg zero, Nat.pow_succ', Nat.mul_comm digits,
      nearest?_mul_left (by decide)]

theorem ofDecimal?_mul_ten_pow (digits count : Nat) (exponent : Int) :
    ofDecimal? (digits * 10 ^ count) (exponent - count) = ofDecimal? digits exponent := by
  induction count with
  | zero => simp
  | succ count ih =>
    rw [Nat.pow_succ, ← Nat.mul_assoc, Int.natCast_succ, ← Int.sub_sub, ofDecimal?_mul_ten, ih]

end SchemaDesk.Number.Magnitude
