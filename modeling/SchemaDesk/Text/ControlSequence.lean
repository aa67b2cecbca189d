/-!
# Control sequences

A control sequence tells a terminal to change colours or move its cursor: an
escape character, an opening bracket, digits and marks, and a letter. Output
that goes to no terminal is written without them.
-/

namespace SchemaDesk.Text

/-- The character may stand between the bracket and the letter of a control sequence. -/
def isParameterChar (c : Char) : Bool :=
  c.isDigit || c == ';' || c == '?'

/-- The number of characters that follow the escape character of a control sequence, if the text
after an escape character makes one. -/
def sequenceLength? : List Char → Option Nat
  | '[' :: rest =>
    match rest.dropWhile isParameterChar with
    | c :: _ => if c.isAlpha then some ((rest.takeWhile isParameterChar).length + 2) else none
    | [] => none
  | _ => none

/-- The text without its control sequences, after skipping some characters. -/
def dropSequencesFrom (skip : Nat) : List Char → List Char
  | [] => []
  | c :: rest =>
    match skip with
    | skip + 1 => dropSequencesFrom skip rest
    | 0 =>
      match if c = '\x1b' then sequenceLength? rest else none with
      | some length => dropSequencesFrom length rest
      | none => c :: dropSequencesFrom 0 rest

/-- The text without its control sequences. -/
def dropControlSequences (text : List Char) : List Char :=
  dropSequencesFrom 0 text

/-- A text without escape characters is written as it stands. -/
theorem dropControlSequences_eq_self (text : List Char) (plain : '\x1b' ∉ text) :
    dropControlSequences text = text := by
  unfold dropControlSequences
  induction text with
  | nil => rfl
  | cons c rest ih =>
    simp only [List.mem_cons, not_or] at plain
    simp [dropSequencesFrom, Ne.symm plain.1, ih plain.2]

end SchemaDesk.Text
