import SchemaDesk.Diagnostic.Basic
import SchemaDesk.Schema.Basic

/-!
# Validating relationships

A relationship needs two ends that resolve and at least one mapping; a mapping
names a field on either side, and no two mappings are alike. The mappings of a
side that does not resolve are not checked.
-/

namespace SchemaDesk

namespace Relationship

/-- A finding about a part of a relationship. -/
def reportAt (finding : Finding) (path : List Segment) : Diagnostic :=
  .located finding "relationship" path

/-- What is wrong with the two ends. -/
def endFindings (relationship : Relationship) (source? target? : Option Model) :
    List Diagnostic :=
  (if source?.isNone then [reportAt .sourceNotFound [.key "fromModel"]] else []) ++
  (if target?.isNone then [reportAt .targetNotFound [.key "toModel"]] else []) ++
  (if source?.isSome && relationship.isSelfReference then [.whole .selfReference] else [])

/-- A relationship without mappings says nothing. -/
def emptinessFindings (relationship : Relationship) : List Diagnostic :=
  if relationship.mappings.isEmpty then [reportAt .noMapping [.key "fields"]] else []

/-- The model is known and lacks the field. -/
def lacksField (model? : Option Model) (name : String) : Bool :=
  match model? with
  | some model => !model.fieldNames.contains name
  | none => false

/-- What is wrong with the mappings at and after a position. -/
def mappingFindings (source? target? : Option Model) (position : Nat) :
    List FieldMapping → List Diagnostic
  | [] => []
  | mapping :: mappings =>
    (if lacksField source? mapping.fieldName then
      [reportAt (.sourceFieldNotFound mapping.fieldName)
        [.key "fields", .index position, .key "fieldName"]] else []) ++
    (if lacksField target? mapping.referencedField then
      [reportAt (.targetFieldNotFound mapping.referencedField)
        [.key "fields", .index position, .key "referencedField"]] else []) ++
    mappingFindings source? target? (position + 1) mappings

/-- The mappings at and after a position that occur before, given the mappings before it. -/
def repeatedMappings (earlier : List FieldMapping) (position : Nat) :
    List FieldMapping → List Diagnostic
  | [] => []
  | mapping :: mappings =>
    let here :=
      if earlier.contains mapping then
        [reportAt .duplicateMapping [.key "fields", .index position]]
      else []
    here ++ repeatedMappings (mapping :: earlier) (position + 1) mappings

/-- The diagnostics of a relationship between the given models: ends, mappings, repetitions. -/
def validate (relationship : Relationship) (models : List Model) : List Diagnostic :=
  let source? := resolve? models relationship.source
  let target? := resolve? models relationship.target
  relationship.endFindings source? target? ++ relationship.emptinessFindings ++
    mappingFindings source? target? 0 relationship.mappings ++
    repeatedMappings [] 0 relationship.mappings

end Relationship

end SchemaDesk
