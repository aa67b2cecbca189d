import SchemaDesk.Json.Basic
import SchemaDesk.Schema.Basic

/-!
# Payloads

A payload describes an entity before it is checked: a JSON value, in which
finished entities may stand for themselves. A finished entity can be taken
apart again into the object that describes it.
-/

namespace SchemaDesk

/-- The entities that a payload may describe. -/
inductive EntityKind where
  | field | blockAttribute | model | fieldMapping | relationClause | relationship | schema
deriving DecidableEq, Repr

/-- The name of a kind in messages. -/
def EntityKind.title : EntityKind → String
  | .field => "Field"
  | .blockAttribute => "ModelAttribute"
  | .model => "Model"
  | .fieldMapping => "RelationField"
  | .relationClause => "RelationConfig"
  | .relationship => "Relationship"
  | .schema => "SchemaState"

/-- A finished entity, or a cardinality, which a payload may hold as a value of its own. -/
inductive Entity where
  | field (entity : Field)
  | blockAttribute (entity : BlockAttribute)
  | model (entity : Model)
  | fieldMapping (entity : FieldMapping)
  | relationClause (entity : RelationClause)
  | relationship (entity : Relationship)
  | schema (entity : Schema)
  | cardinality (value : Cardinality)
deriving DecidableEq, Repr

/-- The description of an entity that is still to be checked. -/
abbrev Payload := Json.Value Entity

namespace Payload

def ofOption {α : Type} (describe : α → Payload) : Option α → Payload
  | none => .null
  | some value => describe value

def ofText (text : String) : Payload := .text text

def ofDefault : DefaultValue → Payload
  | .boolean value => .boolean value
  | .integer value => .integer value
  | .float value => .float value
  | .text value => .text value

def ofField (field : Field) : Payload :=
  .object [("name", .text field.name), ("type", .text field.type),
    ("is_required", .boolean field.isRequired), ("is_list", .boolean field.isList),
    ("attributes", .list (field.attributes.map ofText)),
    ("default_value", ofOption ofDefault field.default?)]

def ofBlockAttribute (mark : BlockAttribute) : Payload :=
  .object [("name", .text mark.name), ("value", ofOption ofText mark.value?)]

def ofModel (model : Model) : Payload :=
  .object [("id", .text model.id), ("name", .text model.name),
    ("fields", .list (model.fields.map ofField)),
    ("attributes", .list (model.attributes.map ofBlockAttribute))]

def ofFieldMapping (mapping : FieldMapping) : Payload :=
  .object [("field_name", .text mapping.fieldName),
    ("referenced_field", .text mapping.referencedField)]

def ofAction (action : ReferentialAction) : Payload := .text action.name

def ofRelationClause (clause : RelationClause) : Payload :=
  .object [("on_delete", ofOption ofAction clause.onDelete?),
    ("on_update", ofOption ofAction clause.onUpdate?),
    ("fields", .list (clause.mappings.map ofFieldMapping))]

def ofRelationship (relationship : Relationship) : Payload :=
  .object [("id", .text relationship.id), ("from_model", .text relationship.source),
    ("to_model", .text relationship.target),
    ("type", .leaf (.cardinality relationship.cardinality)),
    ("config", ofRelationClause relationship.clause)]

def ofSchema (schema : Schema) : Payload :=
  .object [("models", .list (schema.models.map ofModel)),
    ("relationships", .list (schema.relationships.map ofRelationship))]

/-- The object that describes an entity; a cardinality stays as it is. -/
def ofEntity : Entity → Payload
  | .field entity => ofField entity
  | .blockAttribute entity => ofBlockAttribute entity
  | .model entity => ofModel entity
  | .fieldMapping entity => ofFieldMapping entity
  | .relationClause entity => ofRelationClause entity
  | .relationship entity => ofRelationship entity
  | .schema entity => ofSchema entity
  | .cardinality value => .leaf (.cardinality value)

/-- The payload with an entity at its top taken apart. -/
def openEntity : Payload → Payload
  | .leaf entity => ofEntity entity
  | payload => payload

/-- The payload with an entity at its top, or in a list at its top, taken apart. -/
def openEntities : Payload → Payload
  | .leaf entity => ofEntity entity
  | .list items => .list (items.map openEntity)
  | payload => payload

end Payload

end SchemaDesk
