import SchemaDesk.Json.Writer
import SchemaDesk.Schema.Basic

/-!
# The saved layout

The JSON value that a schema is saved as. Every part is written, also one that
has its default or is absent, in the order in which entities declare them.
-/

namespace SchemaDesk

open Json (Value)

/-- A value that holds no ready-made things. -/
abbrev SavedValue := Value Empty

namespace SavedValue

def ofText (text : String) : SavedValue := .text text

def ofOption {α : Type} (describe : α → SavedValue) : Option α → SavedValue
  | none => .null
  | some value => describe value

def ofDefault : DefaultValue → SavedValue
  | .boolean value => .boolean value
  | .integer value => .integer value
  | .float value => .float value
  | .text value => .text value

def ofField (field : Field) : SavedValue :=
  .object [("name", .text field.name), ("type", .text field.type),
    ("isRequired", .boolean field.isRequired), ("isList", .boolean field.isList),
    ("attributes", .list (field.attributes.map ofText)),
    ("defaultValue", ofOption ofDefault field.default?)]

def ofBlockAttribute (mark : BlockAttribute) : SavedValue :=
  .object [("name", .text mark.name), ("value", ofOption ofText mark.value?)]

def ofModel (model : Model) : SavedValue :=
  .object [("id", .text model.id), ("name", .text model.name),
    ("fields", .list (model.fields.map ofField)),
    ("attributes", .list (model.attributes.map ofBlockAttribute))]

def ofFieldMapping (mapping : FieldMapping) : SavedValue :=
  .object [("fieldName", .text mapping.fieldName),
    ("referencedField", .text mapping.referencedField)]

def ofAction (action : ReferentialAction) : SavedValue := .text action.name

def ofRelationClause (clause : RelationClause) : SavedValue :=
  .object [("onDelete", ofOption ofAction clause.onDelete?),
    ("onUpdate", ofOption ofAction clause.onUpdate?),
    ("fields", .list (clause.mappings.map ofFieldMapping))]

def ofRelationship (relationship : Relationship) : SavedValue :=
  .object [("id", .text relationship.id), ("fromModel", .text relationship.source),
    ("toModel", .text relationship.target), ("type", .text relationship.cardinality.name),
    ("config", ofRelationClause relationship.clause)]

def ofSchema (schema : Schema) : SavedValue :=
  .object [("models", .list (schema.models.map ofModel)),
    ("relationships", .list (schema.relationships.map ofRelationship))]

end SavedValue

/-- The text of a saved schema. -/
def Schema.saved (schema : Schema) : String :=
  String.ofList (Json.write (SavedValue.ofSchema schema))

end SchemaDesk
