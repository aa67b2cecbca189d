import SchemaDesk.Json.Basic
import SchemaDesk.Number.Notation
import SchemaDesk.Text.Quoted

/-!
# Writing JSON documents

A document has one item or member per line, indented by two spaces a level. A
number that is not finite has no written form in JSON and becomes `null`.
-/

namespace SchemaDesk.Json

/-- A line end and the indentation of a line at the given level. -/
def newLine (level : Nat) : List Char :=
  '\n' :: List.replicate (2 * level) ' '

/-- A text in double quotes; only control characters are escaped by code. -/
def quoted (text : String) : List Char :=
  Text.Quoted.write .document text.toList

/-- The written form of a floating-point number. -/
def floatText : Number.Binary64 → List Char
  | .finite negative magnitude => Number.finiteText .saved negative magnitude
  | _ => ['n', 'u', 'l', 'l']

mutual

/-- The written form of a value that stands at the given level. -/
def writeValue (level : Nat) : Value Empty → List Char
  | .null => ['n', 'u', 'l', 'l']
  | .boolean true => ['t', 'r', 'u', 'e']
  | .boolean false => ['f', 'a', 'l', 's', 'e']
  | .integer n => Number.intText n
  | .float x => floatText x
  | .text s => quoted s
  | .list [] => ['[', ']']
  | .list (item :: items) =>
    '[' :: newLine (level + 1) ++ writeValue (level + 1) item ++
      writeItems (level + 1) items ++ newLine level ++ [']']
  | .object [] => ['\x7b', '\x7d']
  | .object ((key, value) :: members) =>
    '\x7b' :: newLine (level + 1) ++ quoted key ++ [':', ' '] ++ writeValue (level + 1) value ++
      writeMembers (level + 1) members ++ newLine level ++ ['\x7d']

/-- The items after the first, each on a line of its own. -/
def writeItems (level : Nat) : List (Value Empty) → List Char
  | [] => []
  | item :: items => ',' :: newLine level ++ writeValue level item ++ writeItems level items

/-- The members after the first, each on a line of its own. -/
def writeMembers (level : Nat) : List (String × Value Empty) → List Char
  | [] => []
  | (key, value) :: members =>
    ',' :: newLine level ++ quoted key ++ [':', ' '] ++ writeValue level value ++
      writeMembers level members

end

/-- The written form of a document. -/
def write (value : Value Empty) : List Char :=
  writeValue 0 value

end SchemaDesk.Json
