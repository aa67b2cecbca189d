/-!
# White space and lines

The blanks may surround a text without belonging to it: those of ASCII, the
four information separators U+001C to U+001F, and the spaces and line ends that
Unicode adds. `strip` removes them at both ends. A file may end its lines with a
line feed, a carriage return or both; reading turns all of them into line feeds.
-/

namespace SchemaDesk.Text

/-! ## Blanks -/

/-- A blank is a white-space character in the sense of Unicode, where the information separators
count as white space. -/
def isBlank (c : Char) : Bool :=
  let n := c.toNat
  (9 ≤ n && n ≤ 13) || (28 ≤ n && n ≤ 32) || n == 0x85 || n == 0xa0 || n == 0x1680 ||
    (0x2000 ≤ n && n ≤ 0x200a) || n == 0x2028 || n == 0x2029 || n == 0x202f || n == 0x205f ||
    n == 0x3000

/-- The text without the blanks it begins with. -/
def stripStart (text : List Char) : List Char :=
  text.dropWhile isBlank

/-- The text without the blanks it ends with. -/
def stripEnd (text : List Char) : List Char :=
  (text.reverse.dropWhile isBlank).reverse

/-- The text without the blanks at either end. -/
def strip (text : List Char) : List Char :=
  stripEnd (stripStart text)

/-- A text that starts with a character other than a blank keeps its start. -/
theorem stripStart_cons_of_not_blank (c : Char) (rest : List Char) (solid : isBlank c = false) :
    stripStart (c :: rest) = c :: rest := by
  simp [stripStart, solid]

/-- Nothing is left of blanks alone. -/
theorem strip_eq_nil_of_all_blank (text : List Char) (blank : ∀ c ∈ text, isBlank c = true) :
    strip text = [] := by
  have start : stripStart text = [] := by
    induction text with
    | nil => rfl
    | cons c rest ih =>
      have first : isBlank c = true := blank c (by simp)
      simpa [stripStart, first] using ih fun d inside => blank d (by simp [inside])
  simp [strip, start, stripEnd]

/-! ## Lines -/

/-- Every carriage return, alone or before a line feed, becomes a line feed. -/
def unifyNewlines : List Char → List Char
  | [] => []
  | '\r' :: '\n' :: rest => '\n' :: unifyNewlines rest
  | '\r' :: rest => '\n' :: unifyNewlines rest
  | c :: rest => c :: unifyNewlines rest

/-- The pieces between line feeds; a text with none is one piece. -/
def splitLines (text : List Char) : List (List Char) :=
  text.splitOn '\n'

/-- The lines of a text in which a line feed ends a line; what follows the last line feed counts
only when there is something. -/
def lines (text : List Char) : List (List Char) :=
  match (splitLines text).reverse with
  | [] :: earlier => earlier.reverse
  | pieces => pieces.reverse

end SchemaDesk.Text
