import SchemaDesk.Calendar.Instant
import SchemaDesk.Diagnostic.Basic
import SchemaDesk.Schema.Model
import SchemaDesk.Validation.Name

/-!
# Validating fields

A field needs a well-formed name, a known type, a default that fits the type,
and known attributes without repetition. The check of a default fails for a
whole number that is too large to be compared with floating-point numbers.
-/

namespace SchemaDesk

/-- Validation cannot be carried out. -/
inductive ValidationFailure where
  | integerTooLarge
deriving DecidableEq, Repr

def ValidationFailure.message : ValidationFailure → String
  | .integerTooLarge => "int too large to convert to float"

/-- The result of a validation: diagnostics in a fixed order. -/
abbrev Verdict := Except ValidationFailure (List Diagnostic)

namespace DefaultValue

/-- The default fits a type of whole numbers. -/
def fitsInteger : DefaultValue → Bool
  | .integer _ => true
  | .text content => Validation.isIntegerText content.toList
  | _ => false

/-- The default fits a type of fractional numbers. -/
def fitsDecimal : DefaultValue → Except ValidationFailure Bool
  | .boolean _ => .ok false
  | .integer n => if Number.exceedsBinary64 n then .error .integerTooLarge else .ok true
  | .float x => .ok x.isFinite
  | .text content => .ok (Validation.isDecimalText content.toList)

/-- The default is a truth value. -/
def isBoolean : DefaultValue → Bool
  | .boolean _ => true
  | _ => false

/-- The default is a text that denotes a point in time. -/
def isInstant : DefaultValue → Bool
  | .text content => Calendar.isInstantText content.toList
  | _ => false

/-- What is wrong with a default of the given type. -/
def misfit? (value : DefaultValue) (type : ScalarType) :
    Except ValidationFailure (Option Finding) :=
  match type with
  | .int | .bigInt => .ok (if value.fitsInteger then none else some (.defaultUnfit type.name))
  | .float | .decimal => do
    let fits ← value.fitsDecimal
    .ok (if fits then none else some (.defaultUnfit type.name))
  | .boolean => .ok (if value.isBoolean then none else some .defaultNotBoolean)
  | .dateTime => .ok (if value.isInstant then none else some .defaultNotDate)
  | .string | .json | .bytes => .ok none

end DefaultValue

namespace Field

/-- A finding about a part of a field. -/
def reportAt (finding : Finding) (path : List Segment) : Diagnostic :=
  .located finding "field" path

/-- What is wrong with the name. -/
def nameFindings (field : Field) : List Diagnostic :=
  if field.name.isEmpty then [reportAt .fieldNameMissing [.key "name"]]
  else if Validation.isFieldName field.name.toList then []
  else [reportAt .fieldNameMalformed [.key "name"]]

/-- What is wrong with the type. -/
def typeFindings (field : Field) : List Diagnostic :=
  if field.type.isEmpty then [reportAt .typeMissing [.key "type"]]
  else if field.scalarType?.isSome then []
  else [reportAt (.typeUnknown field.type) [.key "type"]]

/-- What is wrong with the default; one of an unknown type is not checked. -/
def defaultFindings (field : Field) : Verdict :=
  match field.default?, field.scalarType? with
  | some value, some type => do
    match ← value.misfit? type with
    | some finding => .ok [reportAt finding [.key "defaultValue"]]
    | none => .ok []
  | _, _ => .ok []

/-- What is wrong with the tokens at and after a position, given the tokens before it. -/
def tokenFindings (earlier : List String) (position : Nat) : List String → List Diagnostic
  | [] => []
  | token :: tokens =>
    let path : List Segment := [.key "attributes", .index position]
    let here :=
      if !fieldAttributes.contains token then [reportAt (.fieldAttributeUnknown token) path]
      else if earlier.contains token then [reportAt (.duplicateFieldAttribute token) path]
      else []
    here ++ tokenFindings (token :: earlier) (position + 1) tokens

/-- What is wrong with the attributes together. -/
def attributeFindings (field : Field) : List Diagnostic :=
  let hasId := field.attributes.contains "id"
  (if hasId && field.attributes.contains "unique" then
    [reportAt .uniqueImplied [.key "attributes"]] else []) ++
  (if hasId && field.isList then [reportAt .listAsId [.key "attributes"]] else [])

/-- The diagnostics of a field: name, type, default, single attributes, attributes together. -/
def validate (field : Field) : Verdict := do
  let defaultFindings ← field.defaultFindings
  .ok (field.nameFindings ++ field.typeFindings ++ defaultFindings ++
    tokenFindings [] 0 field.attributes ++ field.attributeFindings)

end Field

end SchemaDesk
