import SchemaDesk.Number.Notation
import SchemaDesk.Schema.Model
import SchemaDesk.Text.Quoted

/-!
# Literals and expressions of fields

How a document writes the type of a field, its attributes and its default. A
default is written bare or, for the types whose values are texts, between
double quotes; truth values are never quoted. A whole number of too many digits
is not written at all, and neither is anything that shows it.
-/

namespace SchemaDesk

/-- Why a document is not written. -/
inductive DocumentError where
  | oversizedInteger
deriving DecidableEq, Repr

def DocumentError.message : DocumentError → String
  | .oversizedInteger =>
    "Exceeds the limit (" ++ toString Number.digitLimit ++ " digits) for integer string " ++
      "conversion; use sys.set_int_max_str_digits() to increase the limit"

/-- A text between double quotes, in printable ASCII. -/
def quotedLiteral (text : String) : String :=
  String.ofList (Text.Quoted.write .ascii text.toList)

/-- The text of a default, before it is quoted. -/
def DefaultValue.shown : DefaultValue → String
  | .boolean value => if value then "true" else "false"
  | .integer n => String.ofList (Number.intText n)
  | .float x => String.ofList (Number.shownText x)
  | .text content => content

/-- The default can be written: it is no whole number of too many digits. -/
def DefaultValue.isWritable : DefaultValue → Bool
  | .integer n => Number.isWritable n
  | _ => true

/-- A text that shows some defaults, provided that all of them can be written. -/
def writeShowing (defaults : List DefaultValue) (text : String) : Except DocumentError String :=
  if defaults.all DefaultValue.isWritable then .ok text else .error .oversizedInteger

/-- A default that cannot be written is a whole number of too many digits. -/
theorem DefaultValue.isWritable_eq_false_iff {value : DefaultValue} :
    value.isWritable = false ↔ ∃ n, value = .integer n ∧ Number.isWritable n = false := by
  cases value <;> simp [isWritable]

theorem writeShowing_eq_ok_iff {defaults : List DefaultValue} {text written : String} :
    writeShowing defaults text = .ok written ↔
      (∀ value ∈ defaults, value.isWritable = true) ∧ text = written := by
  unfold writeShowing
  rw [← List.all_eq_true]
  split <;> simp [*]

theorem writeShowing_eq_error_iff {defaults : List DefaultValue} {text : String}
    {error : DocumentError} :
    writeShowing defaults text = .error error ↔
      ∃ n, .integer n ∈ defaults ∧ Number.isWritable n = false := by
  unfold writeShowing
  cases all : defaults.all DefaultValue.isWritable with
  | true =>
    rw [List.all_eq_true] at all
    refine ⟨nofun, ?_⟩
    rintro ⟨n, inside, long⟩
    cases (all _ inside).symm.trans long
  | false =>
    obtain ⟨value, inside, refused⟩ := List.all_eq_false.mp all
    obtain ⟨n, rfl, long⟩ :=
      DefaultValue.isWritable_eq_false_iff.mp (Bool.eq_false_iff.mpr refused)
    cases error
    exact ⟨fun _ => ⟨n, inside, long⟩, fun _ => rfl⟩

namespace Field

/-- The text that stands for a default that is not there. -/
def absentDefault : String := "None"

/-- The literal of the field's default. -/
def defaultLiteral (field : Field) : String :=
  match field.default? with
  | some (.boolean value) => DefaultValue.shown (.boolean value)
  | value? =>
    let text := (value?.map DefaultValue.shown).getD absentDefault
    if field.scalarType?.any ScalarType.quotesDefault then quotedLiteral text else text

/-- Writes the literal of the field's default. -/
def writeDefault (field : Field) : Except DocumentError String :=
  writeShowing field.default?.toList field.defaultLiteral

/-- The type expression: a list, a required value or an optional one. -/
def typeExpression (field : Field) : String :=
  if field.isList then field.type ++ "[]"
  else if field.isRequired then field.type
  else field.type ++ "?"

/-- One attribute; the default attribute takes the field's default as its argument. -/
def attributeText (field : Field) (token : String) : String :=
  if token == "default" && field.hasDefault then "@default(" ++ field.defaultLiteral ++ ")"
  else "@" ++ token

/-- The attributes, each after a space. -/
def attributesText (field : Field) : String :=
  String.join (field.attributes.map fun token => " " ++ field.attributeText token)

/-- The default that the attributes show, if one of them does. -/
def shownDefaults (field : Field) : List DefaultValue :=
  if field.attributes.contains "default" then field.default?.toList else []

theorem mem_shownDefaults_iff {field : Field} {value : DefaultValue} :
    value ∈ field.shownDefaults ↔ "default" ∈ field.attributes ∧ field.default? = some value := by
  unfold shownDefaults
  split <;> simp_all

/-- Writes the attributes. -/
def writeAttributes (field : Field) : Except DocumentError String :=
  writeShowing field.shownDefaults field.attributesText

end Field

/-- An attribute of a model block, with its argument unless that is empty. -/
def BlockAttribute.render (mark : BlockAttribute) : String :=
  if mark.value.isEmpty then mark.name else mark.name ++ "(" ++ mark.value ++ ")"

end SchemaDesk
