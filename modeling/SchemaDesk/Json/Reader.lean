import SchemaDesk.Json.Basic
import SchemaDesk.Text.Quoted

/-!
# Reading JSON texts

The grammar of RFC 8259 with the additional literals `NaN`, `Infinity` and
`-Infinity`. A number without fraction and exponent is a whole number; every
other number is the nearest floating-point number. What stands before a point or
an exponent may be of any size up to a limit of characters. Arrays and objects
nest up to a given depth.
-/

namespace SchemaDesk.Json

open Number (Binary64)

/-- White space between tokens: the space, the tab and the two line ends. -/
def isSpace (c : Char) : Bool :=
  c = ' ' || c = '\t' || c = '\n' || c = '\r'

def skipSpace (text : List Char) : List Char :=
  text.dropWhile isSpace

/-- The most characters that a number may have before a point or an exponent. A minus sign is one
of them, so a negative number may have one digit less than others. -/
def numberLimit : Nat := 4300

/-- The deepest nesting of arrays and objects in a document. -/
def depthLimit : Nat := 200

/-- Reads a fraction if there is one; a point needs a digit after it. -/
def readFraction : List Char → Option (List Char × List Char)
  | '.' :: rest =>
    match rest.takeWhile Char.isDigit with
    | [] => none
    | digits => some (digits, rest.dropWhile Char.isDigit)
  | text => some ([], text)

/-- The number that digits stand for, with its sign. -/
def signed (negative : Bool) (digits : List Char) : Int :=
  let size : Int := Nat.ofDigitChars 10 digits 0
  if negative then -size else size

/-- Reads the digits of an exponent, after its sign. -/
def readExponentDigits (negative : Bool) (text : List Char) : Option (Option Int × List Char) :=
  match text.takeWhile Char.isDigit with
  | [] => none
  | digits => some (some (signed negative digits), text.dropWhile Char.isDigit)

/-- Reads an exponent if there is one. -/
def readExponent : List Char → Option (Option Int × List Char)
  | c :: rest =>
    if c = 'e' ∨ c = 'E' then
      match rest with
      | '-' :: rest => readExponentDigits true rest
      | '+' :: rest => readExponentDigits false rest
      | rest => readExponentDigits false rest
    else some (none, c :: rest)
  | [] => some (none, [])

/-- The sign and the digits before a point or an exponent keep to the limit. -/
def keepsToLimit (negative : Bool) (digits : List Char) : Bool :=
  (if negative then 1 else 0) + digits.length ≤ numberLimit

/-- Reads a number after its sign. No digit follows a leading zero. -/
def readUnsigned {Leaf : Type} (negative : Bool) (text : List Char) :
    Option (Value Leaf × List Char) :=
  match text.takeWhile Char.isDigit with
  | [] => none
  | '0' :: _ :: _ => none
  | digits =>
    if keepsToLimit negative digits then do
      let (fraction, rest) ← readFraction (text.dropWhile Char.isDigit)
      let (exponent?, rest) ← readExponent rest
      match fraction, exponent? with
      | [], none => some (.integer (signed negative digits), rest)
      | _, _ =>
        let exponent := exponent?.getD 0 - fraction.length
        let significand := Nat.ofDigitChars 10 (digits ++ fraction) 0
        some (.float (.ofDecimal negative significand exponent), rest)
    else none

/-- What follows a word at the start of a text. -/
def afterWord? (word : String) (text : List Char) : Option (List Char) :=
  word.toList.isPrefixOf? text

/-- Reads a value that is neither an array nor an object nor a string. -/
def readScalar {Leaf : Type} (text : List Char) : Option (Value Leaf × List Char) :=
  match text with
  | 'n' :: _ => (afterWord? "null" text).map (.null, ·)
  | 't' :: _ => (afterWord? "true" text).map (.boolean true, ·)
  | 'f' :: _ => (afterWord? "false" text).map (.boolean false, ·)
  | 'N' :: _ => (afterWord? "NaN" text).map (.float .nan, ·)
  | 'I' :: _ => (afterWord? "Infinity" text).map (.float (.infinite false), ·)
  | '-' :: 'I' :: rest => (afterWord? "nfinity" rest).map (.float (.infinite true), ·)
  | '-' :: rest => readUnsigned true rest
  | _ => readUnsigned false text

mutual

/-- Reads a value. The fuel bounds the steps, the depth the nesting. -/
def readValue {Leaf : Type} (fuel depth : Nat) (text : List Char) :
    Option (Value Leaf × List Char) :=
  match fuel with
  | 0 => none
  | fuel + 1 =>
    match skipSpace text with
    | '"' :: rest =>
      (Text.Quoted.readRest rest).map fun (content, rest) => (.text (String.ofList content), rest)
    | '[' :: rest =>
      match depth with
      | 0 => none
      | depth + 1 =>
        match skipSpace rest with
        | ']' :: rest => some (.list [], rest)
        | rest => (readItems fuel depth rest).map fun (items, rest) => (.list items, rest)
    | '{' :: rest =>
      match depth with
      | 0 => none
      | depth + 1 =>
        match skipSpace rest with
        | '}' :: rest => some (.object [], rest)
        | rest => (readMembers fuel depth rest).map fun (members, rest) => (.object members, rest)
    | rest => readScalar rest

/-- Reads the items of an array and its closing bracket. -/
def readItems {Leaf : Type} (fuel depth : Nat) (text : List Char) :
    Option (List (Value Leaf) × List Char) :=
  match fuel with
  | 0 => none
  | fuel + 1 =>
    match readValue fuel depth text with
    | none => none
    | some (item, rest) =>
      match skipSpace rest with
      | ']' :: rest => some ([item], rest)
      | ',' :: rest => (readItems fuel depth rest).map fun (items, rest) => (item :: items, rest)
      | _ => none

/-- Reads the members of an object and its closing brace. -/
def readMembers {Leaf : Type} (fuel depth : Nat) (text : List Char) :
    Option (List (String × Value Leaf) × List Char) :=
  match fuel with
  | 0 => none
  | fuel + 1 =>
    match Text.Quoted.read (skipSpace text) with
    | none => none
    | some (key, rest) =>
      match skipSpace rest with
      | ':' :: rest =>
        match readValue fuel depth rest with
        | none => none
        | some (value, rest) =>
          match skipSpace rest with
          | '}' :: rest => some ([(String.ofList key, value)], rest)
          | ',' :: rest =>
            (readMembers fuel depth rest).map fun (members, rest) =>
              ((String.ofList key, value) :: members, rest)
          | _ => none
      | _ => none

end

/-- Reads a text that holds one value, nested no deeper than given. Every step that does not
consume a character is followed by one that does, so the fuel cannot run out. -/
def readWithin? {Leaf : Type} (depth : Nat) (text : List Char) : Option (Value Leaf) :=
  match readValue (2 * text.length + 2) depth text with
  | some (value, rest) => if (skipSpace rest).isEmpty then some value else none
  | none => none

/-- Reads a document. -/
def read? {Leaf : Type} (text : List Char) : Option (Value Leaf) :=
  readWithin? depthLimit text

end SchemaDesk.Json
