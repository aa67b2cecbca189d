import Mathlib.Data.List.TakeWhile
import SchemaDesk.Proofs.Text.Run
import SchemaDesk.Validation.Name

/-!
# What well-formed names and numerals are

A well-formed name is an ASCII letter, a capital for a model and a lower-case
one for a field, and then ASCII letters. The test lets one line feed pass at
the end. A well-formed numeral that does not end so consists of decimal digits,
a minus sign and a point.
-/

namespace SchemaDesk.Validation

/-- The text without a final line feed is the text itself, or the text is that and a line feed. -/
theorem dropFinalNewline_spec (text : List Char) :
    text = dropFinalNewline text ∨ text = dropFinalNewline text ++ ['\n'] := by
  unfold dropFinalNewline
  split
  · next rest reversed =>
    refine .inr ?_
    rw [← text.reverse_reverse, reversed, List.reverse_cons]
  · exact .inl rfl

theorem dropFinalNewline_append (text : List Char) :
    dropFinalNewline (text ++ ['\n']) = text := by
  simp [dropFinalNewline]

/-- A letter of a kind, then ASCII letters, then perhaps a line feed. -/
def HasShape (initial : Char → Bool) (text : List Char) : Prop :=
  ∃ c rest, initial c = true ∧ (∀ other ∈ rest, other.isAlpha = true) ∧
    (text = c :: rest ∨ text = c :: rest ++ ['\n'])

theorem dropFinalNewline_of_no_feed {text : List Char} (plain : '\n' ∉ text) :
    dropFinalNewline text = text :=
  dropFinalNewline_eq_self text fun last => plain (List.mem_of_getLast? last)

/-- The test of both kinds of names, for any test of the first letter. -/
theorem test_iff_hasShape {initial : Char → Bool}
    (letter : ∀ c, initial c = true → c.isAlpha = true) (text : List Char) :
    (match dropFinalNewline text with
      | [] => false
      | c :: rest => initial c && rest.all Char.isAlpha) = true ↔ HasShape initial text := by
  constructor
  · intro accepted
    split at accepted
    · cases accepted
    · next c rest dropped =>
      rw [Bool.and_eq_true, List.all_eq_true] at accepted
      refine ⟨c, rest, accepted.1, accepted.2, ?_⟩
      rw [← dropped]
      exact dropFinalNewline_spec text
  · rintro ⟨c, rest, first, letters, plain | ended⟩
    · have all : ∀ other ∈ c :: rest, other.isAlpha = true :=
        List.forall_mem_cons.mpr ⟨letter c first, letters⟩
      simpa [plain, dropFinalNewline_of_no_feed (Text.AreLetters.no_feed all), first] using letters
    · simp only [ended, dropFinalNewline_append]
      simpa [first] using letters

/-- The test of model names accepts a capital letter with letters behind it. -/
theorem isModelName_iff (text : List Char) :
    isModelName text = true ↔ HasShape Char.isUpper text :=
  test_iff_hasShape (fun _ upper => Bool.or_eq_true_iff.mpr (.inl upper)) text

/-- The test of field names accepts a lower-case letter with letters behind it. -/
theorem isFieldName_iff (text : List Char) :
    isFieldName text = true ↔ HasShape Char.isLower text :=
  test_iff_hasShape (fun _ lower => Bool.or_eq_true_iff.mpr (.inr lower)) text

instance (text : List Char) : Decidable (HasShape Char.isUpper text) :=
  decidable_of_iff _ (isModelName_iff text)

section Numerals

variable {text : List Char}

theorem eq_minus_or_mem_dropMinus : ∀ c ∈ text, c = '-' ∨ c ∈ dropMinus text := by
  unfold dropMinus
  split
  · exact fun c inside => List.mem_cons.mp inside
  · exact fun c inside => .inr inside

theorem isDecimalDigit_of_isDigits (digits : isDigits text = true) :
    ∀ c ∈ text, Text.isDecimalDigit c = true := by
  rw [isDigits, Bool.and_eq_true, List.all_eq_true] at digits
  exact digits.2

theorem mem_of_isIntegerText (whole : isIntegerText text = true) (plain : '\n' ∉ text) :
    ∀ c ∈ text, c = '-' ∨ Text.isDecimalDigit c = true := by
  rw [isIntegerText, dropFinalNewline_of_no_feed plain] at whole
  intro c inside
  exact (eq_minus_or_mem_dropMinus c inside).imp_right (isDecimalDigit_of_isDigits whole c)

theorem mem_of_isDecimalText (decimal : isDecimalText text = true) (plain : '\n' ∉ text) :
    ∀ c ∈ text, c = '-' ∨ c = '.' ∨ Text.isDecimalDigit c = true := by
  unfold isDecimalText at decimal
  simp only [dropFinalNewline_of_no_feed plain] at decimal
  have body : ∀ c ∈ dropMinus text, c = '.' ∨ Text.isDecimalDigit c = true := by
    split at decimal
    · exact fun c inside => .inr (isDecimalDigit_of_isDigits decimal c inside)
    · next fraction rest =>
      -- Before the point stand the digits that were passed over.
      rw [← List.takeWhile_append_dropWhile (p := Text.isDecimalDigit) (l := dropMinus text), rest,
        List.forall_mem_append, List.forall_mem_cons]
      exact ⟨fun c inside => .inr (List.mem_takeWhile_imp inside), .inl rfl,
        fun c inside => .inr (isDecimalDigit_of_isDigits decimal c inside)⟩
    · cases decimal
  intro c inside
  exact (eq_minus_or_mem_dropMinus c inside).imp_right (body c)

end Numerals

end SchemaDesk.Validation
