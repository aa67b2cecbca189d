import SchemaDesk.Text.Digit

/-!
# Shapes of names and numerals

The shapes that validation asks of names and of defaults that are given as
texts. A single line feed at the end does not count.
-/

namespace SchemaDesk.Validation

/-- The text without a line feed at its end. -/
def dropFinalNewline (text : List Char) : List Char :=
  match text.reverse with
  | '\n' :: rest => rest.reverse
  | _ => text

/-- An ASCII capital letter, then ASCII letters. -/
def isModelName (text : List Char) : Bool :=
  match dropFinalNewline text with
  | [] => false
  | c :: rest => c.isUpper && rest.all Char.isAlpha

/-- An ASCII lower-case letter, then ASCII letters. -/
def isFieldName (text : List Char) : Bool :=
  match dropFinalNewline text with
  | [] => false
  | c :: rest => c.isLower && rest.all Char.isAlpha

/-- The text after a minus sign, if it begins with one. -/
def dropMinus : List Char → List Char
  | '-' :: rest => rest
  | text => text

/-- One or more decimal digits of any script. -/
def isDigits (text : List Char) : Bool :=
  !text.isEmpty && text.all Text.isDecimalDigit

/-- An optional minus sign, then digits. -/
def isIntegerText (text : List Char) : Bool :=
  isDigits (dropMinus (dropFinalNewline text))

/-- An optional minus sign, then digits with at most one point, which is not the last character. -/
def isDecimalText (text : List Char) : Bool :=
  let body := dropMinus (dropFinalNewline text)
  match body.dropWhile Text.isDecimalDigit with
  | [] => isDigits body
  | '.' :: fraction => isDigits fraction
  | _ => false

/-- A text that does not end in a line feed is taken as it is. -/
theorem dropFinalNewline_eq_self (text : List Char) (plain : text.getLast? ≠ some '\n') :
    dropFinalNewline text = text := by
  unfold dropFinalNewline
  split
  · next rest reversed =>
    have last : text.getLast? = some '\n' := by
      rw [List.getLast?_eq_head?_reverse, reversed]; rfl
    exact absurd last plain
  · rfl

end SchemaDesk.Validation
