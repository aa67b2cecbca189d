import Mathlib.Algebra.Order.Ring.Nat
import SchemaDesk.Number.Notation

/-!
# Characters of numerals

Every layout writes a number with digits, signs, a point and the letter of an
exponent, and with nothing else. A whole number below a power of ten has no more
digits than the exponent says.
-/

namespace SchemaDesk.Number

theorem natText_ne_nil (n : Nat) : natText n ≠ [] :=
  Nat.toDigits_ne_nil

theorem isDigit_of_mem_natText {n : Nat} : ∀ c ∈ natText n, c.isDigit = true :=
  fun _ inside => Nat.isDigit_of_mem_toDigits (by decide) (by decide) inside

theorem isDigit_of_mem_zeros {count : Nat} : ∀ c ∈ List.replicate count '0', c.isDigit = true := by
  intro c inside
  rw [List.eq_of_mem_replicate inside]
  rfl

/-- A number has at most as many digits as the power of ten above it says. -/
theorem length_natText_le_iff {n count : Nat} (positive : 0 < count) :
    (natText n).length ≤ count ↔ n < 10 ^ count :=
  Nat.length_toDigits_le_iff (by decide) positive

/-- The character may stand in a numeral. -/
def IsNumeralChar (c : Char) : Prop :=
  c.isDigit = true ∨ c = '-' ∨ c = '+' ∨ c = '.' ∨ c = 'e'

/-- Only such characters stand in the text. -/
def IsNumeralText (text : List Char) : Prop :=
  ∀ c ∈ text, IsNumeralChar c

theorem isNumeralText_nil : IsNumeralText [] := nofun

theorem isNumeralText_append {first second : List Char} :
    IsNumeralText (first ++ second) ↔ IsNumeralText first ∧ IsNumeralText second :=
  List.forall_mem_append

theorem isNumeralText_cons {c : Char} {text : List Char} :
    IsNumeralText (c :: text) ↔ IsNumeralChar c ∧ IsNumeralText text :=
  List.forall_mem_cons

theorem isNumeralText_of_isDigit {text : List Char} (digit : ∀ c ∈ text, c.isDigit = true) :
    IsNumeralText text :=
  fun c inside => .inl (digit c inside)

theorem isNumeralText_zeros (count : Nat) : IsNumeralText (List.replicate count '0') :=
  isNumeralText_of_isDigit isDigit_of_mem_zeros

theorem isNumeralText_natText (n : Nat) : IsNumeralText (natText n) :=
  isNumeralText_of_isDigit isDigit_of_mem_natText

theorem isNumeralText_intText (n : Int) : IsNumeralText (intText n) := by
  unfold intText
  split
  · exact isNumeralText_cons.mpr ⟨.inr (.inl rfl), isNumeralText_natText _⟩
  · exact isNumeralText_natText _

section Layouts

variable {digits : List Char}

theorem IsNumeralText.take (numeral : IsNumeralText digits) (count : Nat) :
    IsNumeralText (digits.take count) :=
  fun c inside => numeral c (List.mem_of_mem_take inside)

theorem IsNumeralText.drop (numeral : IsNumeralText digits) (count : Nat) :
    IsNumeralText (digits.drop count) :=
  fun c inside => numeral c (List.mem_of_mem_drop inside)

theorem isNumeralText_positionalText (numeral : IsNumeralText digits) (exponent : Int) :
    IsNumeralText (positionalText digits exponent) := by
  have zero : IsNumeralChar '0' := .inl rfl
  have point : IsNumeralChar '.' := .inr (.inr (.inr (.inl rfl)))
  unfold positionalText
  dsimp only
  repeat' split
  all_goals
    simp only [isNumeralText_append, isNumeralText_cons, isNumeralText_nil, isNumeralText_zeros,
      numeral, numeral.take, numeral.drop, zero, point, and_self]

theorem isNumeralText_exponentText (width : Nat) (exponent : Int) :
    IsNumeralText (exponentText width exponent) := by
  refine isNumeralText_cons.mpr ⟨?_, isNumeralText_append.mpr
    ⟨isNumeralText_zeros _, isNumeralText_natText _⟩⟩
  split
  · exact .inr (.inl rfl)
  · exact .inr (.inr (.inl rfl))

theorem isNumeralText_scientificText (width : Nat) (numeral : IsNumeralText digits)
    (leading : Int) : IsNumeralText (scientificText width digits leading) := by
  have fraction := numeral.drop 1
  have letter : IsNumeralText ('e' :: exponentText width leading) :=
    isNumeralText_cons.mpr ⟨.inr (.inr (.inr (.inr rfl))), isNumeralText_exponentText _ _⟩
  unfold scientificText
  refine isNumeralText_append.mpr ⟨isNumeralText_append.mpr ⟨numeral.take 1, ?_⟩, letter⟩
  cases more : digits.drop 1 with
  | nil => exact isNumeralText_nil
  | cons c text =>
    rw [more] at fraction
    exact isNumeralText_cons.mpr ⟨.inr (.inr (.inr (.inl rfl))), fraction⟩

end Layouts

theorem isNumeralText_finiteText (layout : Layout) (negative : Bool) (magnitude : Magnitude) :
    IsNumeralText (finiteText layout negative magnitude) := by
  have text : IsNumeralText (decimalText layout magnitude.shortest) := by
    unfold decimalText
    dsimp only
    split
    · exact isNumeralText_positionalText (isNumeralText_natText _) _
    · exact isNumeralText_scientificText _ (isNumeralText_natText _) _
  cases negative with
  | false => exact text
  | true => exact isNumeralText_cons.mpr ⟨.inr (.inl rfl), text⟩

end SchemaDesk.Number
