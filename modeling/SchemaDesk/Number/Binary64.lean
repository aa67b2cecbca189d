/-!
# Binary floating point

The numbers of the IEEE 754 format with 64 bits. A finite number is a sign and
a multiple of the smallest positive one, whose magnitude is `mantissa * 2 ^ shift`
such units; the format admits one such pair for every magnitude. A decimal
numeral denotes the nearest of them, and of two nearest the one with the even
mantissa.
-/

namespace SchemaDesk.Number

/-- The pairs that the format admits: the mantissa has 53 bits, and its highest bit is set unless
the shift is the least. -/
def Admissible (mantissa shift : Nat) : Prop :=
  mantissa < Nat.pow 2 53 ∧ shift ≤ 2045 ∧ (shift = 0 ∨ Nat.pow 2 52 ≤ mantissa)

instance (mantissa shift : Nat) : Decidable (Admissible mantissa shift) :=
  inferInstanceAs (Decidable (_ ∧ _))

/-- The magnitude `mantissa * 2 ^ shift`, counted in units of 2 ^ -1074. -/
structure Magnitude where
  mantissa : Nat
  shift : Nat
  admissible : Admissible mantissa shift
deriving DecidableEq, Repr

/-- Zero. -/
def Magnitude.zero : Magnitude := ⟨0, 0, by decide⟩

/-- The number of units. -/
def Magnitude.units (magnitude : Magnitude) : Nat :=
  magnitude.mantissa * Nat.pow 2 magnitude.shift

/-- How many units make one. -/
def unitsInOne : Nat := Nat.pow 2 1074

/-- A floating-point number; there is one value that is not a number. -/
inductive Binary64 where
  | finite (negative : Bool) (magnitude : Magnitude)
  | infinite (negative : Bool)
  | nan
deriving DecidableEq, Repr

/-- The quotient rounded to the nearest whole number, a half going to the even neighbour. -/
def roundHalfEven (num den : Nat) : Nat :=
  let quotient := num / den
  let rest := num % den
  if 2 * rest < den then quotient
  else if den < 2 * rest then quotient + 1
  else if quotient % 2 = 0 then quotient
  else quotient + 1

/-- The magnitude with the given parts, if the format admits them. -/
def Magnitude.ofParts? (mantissa shift : Nat) : Option Magnitude :=
  if admissible : Admissible mantissa shift then some ⟨mantissa, shift, admissible⟩ else none

/-- The magnitude nearest to a quotient, unless that rounds beyond the largest one. -/
def Magnitude.nearest? (num den : Nat) : Option Magnitude :=
  let units := num * unitsInOne
  let shift := Nat.log2 (units / den) - 52
  let mantissa := roundHalfEven units (den * Nat.pow 2 shift)
  if mantissa = Nat.pow 2 53 then Magnitude.ofParts? (Nat.pow 2 52) (shift + 1)
  else Magnitude.ofParts? mantissa shift

/-- The magnitude nearest to `digits * 10 ^ exponent`, unless that rounds beyond the largest one.
Exponents far outside the range of the format are settled without computing the power. -/
def Magnitude.ofDecimal? (digits : Nat) (exponent : Int) : Option Magnitude :=
  if digits = 0 then some .zero
  else if exponent > 400 then none
  else if exponent ≥ 0 then Magnitude.nearest? (digits * Nat.pow 10 exponent.toNat) 1
  else if (-exponent).toNat > Nat.log2 digits + 400 then some .zero
  else Magnitude.nearest? digits (Nat.pow 10 (-exponent).toNat)

/-- The number that a decimal numeral denotes. -/
def Binary64.ofDecimal (negative : Bool) (digits : Nat) (exponent : Int) : Binary64 :=
  match Magnitude.ofDecimal? digits exponent with
  | some magnitude => .finite negative magnitude
  | none => .infinite negative

/-- The number is neither infinite nor undefined. -/
def Binary64.isFinite : Binary64 → Bool
  | .finite _ _ => true
  | _ => false

/-- A whole number that rounds beyond the largest finite number has no floating-point value. -/
def exceedsBinary64 (n : Int) : Bool :=
  (Magnitude.nearest? n.natAbs 1).isNone

/-! ## Machine words -/

/-- The number fits a machine word. -/
def isWord (n : Int) : Bool :=
  -9223372036854775808 ≤ n && n ≤ 9223372036854775807

/-- Below zero there is one word more than above. -/
theorem isWord_iff (n : Int) :
    isWord n = true ↔ -9223372036854775808 ≤ n ∧ n < 9223372036854775808 := by
  simp only [isWord, Bool.and_eq_true, decide_eq_true_eq]
  omega

end SchemaDesk.Number
