import SchemaDesk.Schema.Model
import SchemaDesk.Validation.Field

/-!
# Validating models

A model needs a well-formed name, fields with distinct names, attributes that
do not repeat, and parts that are valid themselves. Diagnostics of the parts
come last and are located in the model.
-/

namespace SchemaDesk

namespace BlockAttribute

/-- The diagnostics of an attribute: it has to be known, and some need a value. -/
def validate (mark : BlockAttribute) : List Diagnostic :=
  match mark.kind? with
  | none => [.located (.blockAttributeUnknown mark.name) "attribute" [.key "name"]]
  | some kind =>
    if kind.requiresValue && mark.value.isEmpty then
      [.located (.valueRequired mark.name) "attribute" [.key "value"]]
    else []

end BlockAttribute

namespace Model

/-- A finding about a part of a model. -/
def reportAt (finding : Finding) (path : List Segment) : Diagnostic :=
  .located finding "model" path

/-- What is wrong with the name. -/
def nameFindings (model : Model) : List Diagnostic :=
  if model.name.isEmpty then [reportAt .modelNameMissing [.key "name"]]
  else if Validation.isModelName model.name.toList then []
  else [reportAt .modelNameMalformed [.key "name"]]

/-- A model without fields is unusual. -/
def emptinessFindings (model : Model) : List Diagnostic :=
  if model.fields.isEmpty then [.whole .noFields] else []

/-- The names at and after a position that occur before, given the names before it. -/
def repeatedNames (earlier : List String) (position : Nat) : List String → List Diagnostic
  | [] => []
  | name :: names =>
    let here :=
      if earlier.contains name then
        [reportAt (.duplicateField name) [.key "fields", .index position, .key "name"]]
      else []
    here ++ repeatedNames (name :: earlier) (position + 1) names

/-- What is wrong with the attributes at and after a position, given those before it. An attribute
with the name and the value of an earlier one is a duplicate; otherwise one that may appear once
may not share its name with an earlier one. -/
def repeatedAttributes (earlier : List BlockAttribute) (position : Nat) :
    List BlockAttribute → List Diagnostic
  | [] => []
  | mark :: marks =>
    let path : List Segment := [.key "attributes", .index position]
    let here :=
      if earlier.any fun other => other.name == mark.name && other.value == mark.value then
        [reportAt (.duplicateBlockAttribute mark.name) path]
      else if mark.kind?.any BlockAttributeKind.single &&
          earlier.any fun other => other.name == mark.name then
        [reportAt (.repeatedBlockAttribute mark.name) path]
      else []
    here ++ repeatedAttributes (mark :: earlier) (position + 1) marks

/-- The diagnostics of the fields at and after a position, located in the model. -/
def fieldFindings (position : Nat) : List Field → Verdict
  | [] => .ok []
  | field :: fields => do
    let here ← field.validate
    let later ← fieldFindings (position + 1) fields
    .ok (here.map (·.rebase "model" [.key "fields", .index position]) ++ later)

/-- The diagnostics of the attributes at and after a position, located in the model. -/
def attributeFindings (position : Nat) : List BlockAttribute → List Diagnostic
  | [] => []
  | mark :: marks =>
    mark.validate.map (·.rebase "model" [.key "attributes", .index position]) ++
      attributeFindings (position + 1) marks

/-- The diagnostics of a model: name, structure, fields, attributes. -/
def validate (model : Model) : Verdict := do
  let fieldFindings ← fieldFindings 0 model.fields
  .ok (model.nameFindings ++ model.emptinessFindings ++ repeatedNames [] 0 model.fieldNames ++
    repeatedAttributes [] 0 model.attributes ++ fieldFindings ++
    attributeFindings 0 model.attributes)

end Model

end SchemaDesk
