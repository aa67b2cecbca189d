import SchemaDesk.Proofs.Number.Notation
import SchemaDesk.Proofs.Validation.Name

/-!
# Literals of numbers

The shapes of the numbers that a document may hold: an optional minus sign and
digits, for a fractional number also a point with digits behind it and an
exponent. Every number that is written has its shape. A text that is given for
a number has it too, if it is a single line of ASCII; before its point there may
be no digit.
-/

namespace SchemaDesk.Number

/-- One ASCII digit or more, and nothing else. -/
structure IsDigits (text : List Char) : Prop where
  nonempty : text ≠ []
  digit : ∀ c ∈ text, c.isDigit = true

/-- A text of some kind, perhaps after a minus sign. -/
inductive IsSigned (unsigned : List Char → Prop) : List Char → Prop
  | plain {text : List Char} (body : unsigned text) : IsSigned unsigned text
  | minus {text : List Char} (body : unsigned text) : IsSigned unsigned ('-' :: text)

/-- A point and digits, or nothing. -/
inductive IsFraction : List Char → Prop
  | none : IsFraction []
  | some {digits : List Char} (digit : IsDigits digits) : IsFraction ('.' :: digits)

/-- The letter of an exponent, its sign and digits, or nothing. -/
inductive IsExponent : List Char → Prop
  | none : IsExponent []
  | some {sign : Char} {digits : List Char} (signed : sign = '+' ∨ sign = '-')
      (digit : IsDigits digits) : IsExponent ('e' :: sign :: digits)

/-- Digits, an optional fraction and an optional exponent; before a fraction the digits may be
missing. -/
inductive IsUnsignedDecimal : List Char → Prop
  | whole {digits fraction exponent : List Char} (digit : IsDigits digits)
      (behind : IsFraction fraction) (scale : IsExponent exponent) :
      IsUnsignedDecimal (digits ++ fraction ++ exponent)
  | fraction {digits exponent : List Char} (digit : IsDigits digits)
      (scale : IsExponent exponent) : IsUnsignedDecimal ('.' :: digits ++ exponent)

/-- A whole number as a literal. -/
def IsIntegerLiteral : List Char → Prop :=
  IsSigned IsDigits

/-- A fractional number as a literal. -/
def IsDecimalLiteral : List Char → Prop :=
  IsSigned IsUnsignedDecimal

/-! ## Digits -/

namespace IsDigits

variable {digits : List Char}

theorem natText (n : Nat) : IsDigits (natText n) :=
  ⟨natText_ne_nil n, isDigit_of_mem_natText⟩

theorem zeros_append (digit : IsDigits digits) (count : Nat) :
    IsDigits (List.replicate count '0' ++ digits) :=
  ⟨List.append_ne_nil_of_right_ne_nil _ digit.nonempty,
    List.forall_mem_append.mpr ⟨isDigit_of_mem_zeros, digit.digit⟩⟩

theorem append_zeros (digit : IsDigits digits) (count : Nat) :
    IsDigits (digits ++ List.replicate count '0') :=
  ⟨List.append_ne_nil_of_left_ne_nil digit.nonempty _,
    List.forall_mem_append.mpr ⟨digit.digit, isDigit_of_mem_zeros⟩⟩

theorem take (digit : IsDigits digits) {count : Nat} (positive : count ≠ 0) :
    IsDigits (digits.take count) where
  nonempty nothing := (List.take_eq_nil_iff.mp nothing).elim positive digit.nonempty
  digit c inside := digit.digit c (List.mem_of_mem_take inside)

theorem drop (digit : IsDigits digits) {count : Nat} (within : count < digits.length) :
    IsDigits (digits.drop count) where
  nonempty nothing := Nat.not_le.mpr within (List.drop_eq_nil_iff.mp nothing)
  digit c inside := digit.digit c (List.mem_of_mem_drop inside)

/-- Digits alone are a number. -/
theorem isUnsignedDecimal (digit : IsDigits digits) : IsUnsignedDecimal digits := by
  simpa using IsUnsignedDecimal.whole digit .none .none

end IsDigits

theorem IsIntegerLiteral.isDecimalLiteral {text : List Char} (whole : IsIntegerLiteral text) :
    IsDecimalLiteral text := by
  cases whole with
  | plain body => exact .plain body.isUnsignedDecimal
  | minus body => exact .minus body.isUnsignedDecimal

/-! ## Numbers that are written -/

theorem isIntegerLiteral_intText (n : Int) : IsIntegerLiteral (intText n) := by
  unfold intText
  split
  · exact .minus (.natText _)
  · exact .plain (.natText _)

section Layouts

variable {digits : List Char}

theorem isUnsignedDecimal_positionalText (digit : IsDigits digits) (exponent : Int) :
    IsUnsignedDecimal (positionalText digits exponent) := by
  have zero : IsDigits ['0'] := ⟨List.cons_ne_nil _ _, by simp⟩
  unfold positionalText
  dsimp only
  split
  · -- All digits stand behind the point.
    have behind := IsFraction.some (digit.zeros_append (-(digits.length + exponent)).toNat)
    simpa using IsUnsignedDecimal.whole zero behind .none
  · next positive =>
    split
    · -- The point stands behind all digits.
      have whole := digit.append_zeros exponent.toNat
      simpa using IsUnsignedDecimal.whole whole (.some zero) .none
    · -- The point stands between the digits.
      have whole : IsDigits (digits.take (digits.length + exponent).toNat) :=
        digit.take (by omega)
      have behind : IsDigits (digits.drop (digits.length + exponent).toNat) :=
        digit.drop (by omega)
      simpa using IsUnsignedDecimal.whole whole (.some behind) .none

theorem isExponent_exponentText (width : Nat) (exponent : Int) :
    IsExponent ('e' :: exponentText width exponent) := by
  refine .some ?_ ((IsDigits.natText _).zeros_append _)
  split
  · exact .inr rfl
  · exact .inl rfl

theorem isUnsignedDecimal_scientificText (width : Nat) (digit : IsDigits digits)
    (leading : Int) : IsUnsignedDecimal (scientificText width digits leading) := by
  have whole : IsDigits (digits.take 1) := digit.take Nat.one_ne_zero
  have scale := isExponent_exponentText width leading
  unfold scientificText
  cases more : digits.drop 1 with
  | nil => exact .whole whole .none scale
  | cons c text =>
    have within : 1 < digits.length := by
      refine Nat.not_le.mp fun short => ?_
      rw [List.drop_eq_nil_of_le short] at more
      cases more
    exact .whole whole (.some (more ▸ digit.drop within)) scale

theorem isUnsignedDecimal_decimalText (layout : Layout) (decimal : Decimal) :
    IsUnsignedDecimal (decimalText layout decimal) := by
  unfold decimalText
  dsimp only
  split
  · exact isUnsignedDecimal_positionalText (.natText _) _
  · exact isUnsignedDecimal_scientificText _ (.natText _) _

end Layouts

/-- A finite number is written as a fractional number, in every layout. -/
theorem isDecimalLiteral_finiteText (layout : Layout) (negative : Bool) (magnitude : Magnitude) :
    IsDecimalLiteral (finiteText layout negative magnitude) := by
  have body := isUnsignedDecimal_decimalText layout magnitude.shortest
  cases negative with
  | false => exact .plain body
  | true => exact .minus body

/-! ## Texts that are given for numbers -/

/-- The text is a single line of ASCII characters. -/
def IsAsciiLine (text : List Char) : Prop :=
  ∀ c ∈ text, c.toNat < 128 ∧ c ≠ '\n'

instance : DecidablePred IsAsciiLine :=
  fun text => List.decidableBAll _ text

/-- The decimal digits of other scripts are not in ASCII. -/
theorem isDigit_of_isDecimalDigit {c : Char} (ascii : c.toNat < 128)
    (digit : Text.isDecimalDigit c = true) : c.isDigit = true := by
  have starts : ∀ start ∈ Text.decimalZeros, start = 48 ∨ 128 ≤ start := by decide
  obtain ⟨start, listed, run⟩ := List.any_eq_true.mp digit
  rw [Bool.and_eq_true, decide_eq_true_eq, decide_eq_true_eq] at run
  rcases starts start listed with rfl | beyond
  · have low : 48 ≤ c.toNat := run.1
    have high : c.toNat ≤ 57 := Nat.le_of_lt_succ run.2
    exact Bool.and_eq_true_iff.mpr ⟨decide_eq_true low, decide_eq_true high⟩
  · exact absurd (Nat.lt_of_lt_of_le ascii beyond) (Nat.not_lt.mpr run.1)

namespace IsAsciiLine

variable {text rest : List Char}

theorem no_feed (line : IsAsciiLine text) : '\n' ∉ text :=
  fun inside => (line '\n' inside).2 rfl

theorem of_sublist (line : IsAsciiLine text) (part : rest.Sublist text) : IsAsciiLine rest :=
  fun c inside => line c (part.subset inside)

theorem isDigits (line : IsAsciiLine text) (accepted : Validation.isDigits text = true) :
    IsDigits text := by
  rw [Validation.isDigits, Bool.and_eq_true, List.all_eq_true] at accepted
  refine ⟨?_, fun c inside => isDigit_of_isDecimalDigit (line c inside).1 (accepted.2 c inside)⟩
  rintro rfl
  cases accepted.1

/-- A minus sign before a body of some kind makes a signed one. -/
theorem isSigned (line : IsAsciiLine text) {unsigned : List Char → Prop}
    (body : IsAsciiLine (Validation.dropMinus text) → unsigned (Validation.dropMinus text)) :
    IsSigned unsigned text := by
  unfold Validation.dropMinus at body
  split at body
  · exact .minus (body (line.of_sublist (List.sublist_cons_self _ _)))
  · exact .plain (body line)

/-- Validation accepts such a text for a whole number only if it is one. -/
theorem isIntegerLiteral (line : IsAsciiLine text)
    (accepted : Validation.isIntegerText text = true) : IsIntegerLiteral text := by
  rw [Validation.isIntegerText, Validation.dropFinalNewline_of_no_feed line.no_feed] at accepted
  exact line.isSigned fun body => body.isDigits accepted

/-- Validation accepts such a text for a fractional number only if it is one. -/
theorem isDecimalLiteral (line : IsAsciiLine text)
    (accepted : Validation.isDecimalText text = true) : IsDecimalLiteral text := by
  unfold Validation.isDecimalText at accepted
  simp only [Validation.dropFinalNewline_of_no_feed line.no_feed] at accepted
  refine line.isSigned fun body => ?_
  generalize Validation.dropMinus text = unsigned at accepted body
  split at accepted
  · exact (body.isDigits accepted).isUnsignedDecimal
  · next fraction behind =>
    -- Before the point stand the digits that were passed over, if there are any.
    have split := List.takeWhile_append_dropWhile (p := Text.isDecimalDigit) (l := unsigned)
    rw [behind] at split
    have digits : IsDigits fraction := by
      refine IsAsciiLine.isDigits (fun c inside => body c ?_) accepted
      rw [← split]
      exact List.mem_append_right _ (List.mem_cons_of_mem _ inside)
    have before : ∀ c ∈ unsigned.takeWhile Text.isDecimalDigit, c.isDigit = true := by
      intro c inside
      exact isDigit_of_isDecimalDigit (body c ((List.takeWhile_sublist _).subset inside)).1
        (List.mem_takeWhile_imp inside)
    rw [← split]
    by_cases bare : unsigned.takeWhile Text.isDecimalDigit = []
    · rw [bare]
      simpa using IsUnsignedDecimal.fraction digits .none
    · simpa using IsUnsignedDecimal.whole ⟨bare, before⟩ (.some digits) .none
  · cases accepted

end IsAsciiLine

end SchemaDesk.Number
