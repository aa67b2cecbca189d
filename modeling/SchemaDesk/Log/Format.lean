import SchemaDesk.Log.Layout
import SchemaDesk.Text.Digit
import SchemaDesk.Text.WordCharacter

/-!
# Formats of log lines

A format describes a layout. A percent sign opens a directive: a key between
parentheses, flags, a width, a precision after a point, and a letter. Two
percent signs stand for one.

A format is acceptable if it is empty or has at least one complete directive.
An acceptable format may still describe no layout, because another directive is
incomplete, has no key or an unknown one, or asks for a number.
-/

namespace SchemaDesk.LogFormat

/-- The format of log lines unless another is given. The program also writes, before the message, the
file and the line that a record comes from; records here have neither. -/
def standard : String := "%(asctime)s - %(name)s - %(levelname)s - %(message)s"

/-- The characters that may stand between the key and the width. -/
def isFlag (c : Char) : Bool :=
  c == '#' || c == '0' || c == '+' || c == ' ' || c == '-'

/-! ## Acceptable formats -/

/-- The letters that may end a directive, in lower case, and the percent sign. -/
def letters : List Char :=
  ['d', 'i', 'o', 'u', 'x', 'e', 'f', 'g', 'c', 'r', 's', 'a', '%']

/-- Letters outside ASCII that differ from one of the letters in case only: the capital i with a
dot, the small i without one, and the long s. -/
def caseVariants : List Char := ['\u0130', '\u0131', '\u017f']

/-- The character may end a directive, in any letter case. -/
def isLetter (c : Char) : Bool :=
  letters.contains c.toLower || caseVariants.contains c

/-- Skips a number, or an asterisk in its place. -/
def skipNumber : List Char → List Char
  | '*' :: rest => rest
  | text => text.dropWhile Text.isDecimalDigit

/-- Skips a point and the number after it. -/
def skipPrecision : List Char → List Char
  | '.' :: '*' :: rest => rest
  | '.' :: c :: rest =>
    if Text.isDecimalDigit c then rest.dropWhile Text.isDecimalDigit else '.' :: c :: rest
  | text => text

/-- What follows the key of a directive completes it. -/
def isCompleted (text : List Char) : Bool :=
  match skipPrecision (skipNumber (text.dropWhile isFlag)) with
  | c :: _ => isLetter c
  | [] => false

/-- A complete directive with a word as its key stands at the start of the text. -/
def opensDirective : List Char → Bool
  | '%' :: '(' :: text =>
    match text.takeWhile Text.isWordChar, text.dropWhile Text.isWordChar with
    | _ :: _, ')' :: rest => isCompleted rest
    | _, _ => false
  | _ => false

/-- A complete directive stands somewhere in the text. -/
def hasDirective : List Char → Bool
  | [] => false
  | c :: rest => opensDirective (c :: rest) || hasDirective rest

/-- The format may be used. -/
def isAcceptable (format : String) : Bool :=
  format.isEmpty || hasDirective format.toList

/-! ## The layout of a format -/

/-- The greatest width and the greatest precision. -/
def maxSize : Nat := 2147483647

/-- Reads a number, which is zero without digits. -/
def readSize? (text : List Char) : Option (Nat × List Char) :=
  let size := Nat.ofDigitChars 10 (text.takeWhile Char.isDigit) 0
  if size ≤ maxSize then some (size, text.dropWhile Char.isDigit) else none

/-- Reads a point and the number after it, if there is a point. -/
def readLimit? : List Char → Option (Option Nat × List Char)
  | '.' :: rest => (readSize? rest).map fun (limit, rest) => (some limit, rest)
  | text => some (none, text)

/-- Skips a letter for the size of a number, which says nothing here. -/
def skipSizeLetter : List Char → List Char
  | 'h' :: rest | 'l' :: rest | 'L' :: rest => rest
  | text => text

/-- Reads flags, width and precision. -/
def readColumn? (text : List Char) : Option (Column × List Char) :=
  match readSize? (text.dropWhile isFlag) with
  | none => none
  | some (width, rest) =>
    match readLimit? rest with
    | none => none
    | some (limit?, rest) =>
      some (⟨(text.takeWhile isFlag).contains '-', width, limit?⟩, skipSizeLetter rest)

/-- Reads the key of a directive. -/
def readPart? : List Char → Option (RecordPart × List Char)
  | '(' :: text =>
    match RecordPart.ofKey? (text.takeWhile (· != ')')), text.dropWhile (· != ')') with
    | some part, _ :: rest => some (part, rest)
    | _, _ => none
  | _ => none

/-- Reads what follows a percent sign. -/
def readPiece? (text : List Char) : Option (LayoutPiece × List Char) :=
  match text with
  | '%' :: rest => some (.character '%', rest)
  | _ =>
    match readPart? text with
    | none => none
    | some (part, text) =>
      match readColumn? text with
      | some (column, letter :: rest) =>
        (Conversion.ofLetter? letter).map fun conversion =>
          (.directive part conversion column, rest)
      | _ => none

/-- The pieces of a text, in which characters that were read already are skipped. -/
def pieces? (skip : Nat) : List Char → Option LogLayout
  | [] => some []
  | c :: rest =>
    match skip with
    | skip + 1 => pieces? skip rest
    | 0 =>
      if c = '%' then
        match readPiece? rest with
        | none => none
        | some (piece, after) => (pieces? (rest.length - after.length) rest).map (piece :: ·)
      else (pieces? 0 rest).map (.character c :: ·)

/-- The layout that a format describes, if it describes one; an empty format shows the message. -/
def layout? (format : String) : Option LogLayout :=
  if format.isEmpty then some .messageOnly else pieces? 0 format.toList

end SchemaDesk.LogFormat
