import SchemaDesk.Number.Binary64
import SchemaDesk.Payload.Reading

/-!
# Reading single values

The readings of texts, flags, defaults, lists and vocabulary words. A text has
to be a text; a flag may also be given as 0 or 1 or in words; a default keeps
the kind of value it has.
-/

namespace SchemaDesk

open Reading

/-- A text; a cardinality counts as the text of its name. -/
def readText : Payload → Reading String
  | .text text => accept text
  | .leaf (.cardinality value) => accept value.name
  | _ => reject .notText

/-- A text or nothing. -/
def readText? : Payload → Reading (Option String)
  | .null => accept none
  | payload => some <$> readText payload

/-- The words that stand for a flag, in lower case. -/
def flagWords : List (String × Bool) :=
  [("0", false), ("off", false), ("f", false), ("false", false), ("n", false), ("no", false),
    ("1", true), ("on", true), ("t", true), ("true", true), ("y", true), ("yes", true)]

/-- The flag that a text spells, where only ASCII letters change case. -/
def flagOfText? (text : String) : Option Bool :=
  flagWords.lookup (String.ofList (text.toList.map Char.toLower))

/-- A flag that a text spells. -/
def readFlagText (text : String) : Reading Bool :=
  match flagOfText? text with
  | some flag => accept flag
  | none => reject .unclearBoolean

/-- A flag that a whole number stands for. Of the machine words, 0 and 1 do. -/
def readFlagInteger (n : Int) : Reading Bool :=
  if n = 0 then accept false
  else if n = 1 then accept true
  else if Number.isWord n then reject .unclearBoolean
  else reject .notBoolean

/-- The whole number that a floating-point number equals, if its size fits a machine word. -/
def wordOfFloat? : Number.Binary64 → Option Int
  | .finite negative magnitude =>
    let size : Int := (magnitude.units / Number.unitsInOne : Nat)
    if magnitude.units % Number.unitsInOne = 0 ∧ Number.isWord size then
      some (if negative then -size else size)
    else none
  | _ => none

/-- A flag: a truth value, a number that equals 0 or 1, or a word. -/
def readFlag : Payload → Reading Bool
  | .boolean value => accept value
  | .integer n => readFlagInteger n
  | .float x =>
    match wordOfFloat? x with
    | some n => readFlagInteger n
    | none => reject .notBoolean
  | .text text => readFlagText text
  | .leaf (.cardinality value) => readFlagText value.name
  | _ => reject .notBoolean

/-- The issues of a value that is no default, one for each kind of default. -/
def notDefault : List Issue :=
  [⟨[.key "bool"], .notBoolean⟩, ⟨[.key "int"], .notInteger⟩, ⟨[.key "float"], .notNumber⟩,
    ⟨[.key "str"], .notText⟩]

/-- A default of any kind, or nothing. -/
def readDefault? : Payload → Reading (Option DefaultValue)
  | .null => accept none
  | .boolean value => accept (some (.boolean value))
  | .integer n => accept (some (.integer n))
  | .float x => accept (some (.float x))
  | .text text => accept (some (.text text))
  | .leaf (.cardinality value) => accept (some (.text value.name))
  | _ => rejectAll notDefault

/-- A list whose items are read alike. -/
def readList {α : Type} (source : Source) (read : Payload → Reading α) : Payload → Reading (List α)
  | .list payloads => items read 0 payloads
  | _ => reject (.notList source)

/-- A cardinality or its name. -/
def readCardinality : Payload → Reading Cardinality
  | .leaf (.cardinality value) => accept value
  | .text text =>
    match Cardinality.ofName? text with
    | some value => accept value
    | none => reject .notCardinality
  | _ => reject .notCardinality

/-- The name of a referential action, or nothing. -/
def readAction? : Payload → Reading (Option ReferentialAction)
  | .null => accept none
  | .text text =>
    match ReferentialAction.ofName? text with
    | some value => accept (some value)
    | none => reject .notAction
  | _ => reject .notAction

end SchemaDesk
