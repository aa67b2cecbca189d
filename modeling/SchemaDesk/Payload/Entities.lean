import SchemaDesk.Payload.Scalar

/-!
# Reading entities

An entity is read from an object. Some of its parts have two keys: the one of
the saved layout and a plain one. When both are present, the first counts.
Issues are reported under the key that was used; a missing part is reported
under the key of the saved layout. Other keys are ignored. A finished entity of
the right kind stands for itself.
-/

namespace SchemaDesk

open Reading

/-- The two keys of a part. -/
structure PartKey where
  saved : String
  plain : String
deriving DecidableEq, Repr

namespace PartKey

/-- A part with one key. -/
def only (key : String) : PartKey := ⟨key, key⟩

def isRequired : PartKey := ⟨"isRequired", "is_required"⟩
def isList : PartKey := ⟨"isList", "is_list"⟩
def defaultValue : PartKey := ⟨"defaultValue", "default_value"⟩
def fieldName : PartKey := ⟨"fieldName", "field_name"⟩
def referencedField : PartKey := ⟨"referencedField", "referenced_field"⟩
def onDelete : PartKey := ⟨"onDelete", "on_delete"⟩
def onUpdate : PartKey := ⟨"onUpdate", "on_update"⟩
def fromModel : PartKey := ⟨"fromModel", "from_model"⟩
def toModel : PartKey := ⟨"toModel", "to_model"⟩

end PartKey

/-- The members of an object. -/
abbrev Members := List (String × Payload)

/-- The key that was used for a part, and the payload under it. -/
def part? (members : Members) (key : PartKey) : Option (String × Payload) :=
  match Json.member? members key.saved with
  | some payload => some (key.saved, payload)
  | none => (Json.member? members key.plain).map fun payload => (key.plain, payload)

/-- A part, or what stands for it when it is absent. -/
def readPart {α : Type} (members : Members) (key : PartKey) (read : Payload → Reading α)
    (absent : Reading α) : Reading α :=
  match part? members key with
  | some (used, payload) => (read payload).under (.key used)
  | none => absent

/-- A part that may not be absent. -/
def readRequired {α : Type} (members : Members) (key : PartKey) (read : Payload → Reading α) :
    Reading α :=
  readPart members key read ((reject .missing).under (.key key.saved))

def readField (source : Source) : Payload → Reading Field
  | .leaf (.field entity) => accept entity
  | .object members =>
    Field.mk <$> readRequired members (.only "name") readText
      <*> readPart members (.only "type") readText (accept "")
      <*> readPart members .isRequired readFlag (accept true)
      <*> readPart members .isList readFlag (accept false)
      <*> readPart members (.only "attributes") (readList source readText) (accept [])
      <*> readPart members .defaultValue readDefault? (accept none)
  | _ => reject (.notEntity source .field)

def readBlockAttribute (source : Source) : Payload → Reading BlockAttribute
  | .leaf (.blockAttribute entity) => accept entity
  | .object members =>
    BlockAttribute.mk <$> readRequired members (.only "name") readText
      <*> readPart members (.only "value") readText? (accept none)
  | _ => reject (.notEntity source .blockAttribute)

def readModel (ids : FreshIds) (source : Source) : Payload → Reading Model
  | .leaf (.model entity) => accept entity
  | .object members =>
    Model.mk <$> readPart members (.only "id") readText (fresh ids)
      <*> readRequired members (.only "name") readText
      <*> readPart members (.only "fields") (readList source (readField source)) (accept [])
      <*> readPart members (.only "attributes") (readList source (readBlockAttribute source))
        (accept [])
  | _ => reject (.notEntity source .model)

def readFieldMapping (source : Source) : Payload → Reading FieldMapping
  | .leaf (.fieldMapping entity) => accept entity
  | .object members =>
    FieldMapping.mk <$> readRequired members .fieldName readText
      <*> readRequired members .referencedField readText
  | _ => reject (.notEntity source .fieldMapping)

def readRelationClause (source : Source) : Payload → Reading RelationClause
  | .leaf (.relationClause entity) => accept entity
  | .object members =>
    RelationClause.mk <$> readPart members .onDelete readAction? (accept none)
      <*> readPart members .onUpdate readAction? (accept none)
      <*> readPart members (.only "fields") (readList source (readFieldMapping source)) (accept [])
  | _ => reject (.notEntity source .relationClause)

def readRelationship (ids : FreshIds) (source : Source) : Payload → Reading Relationship
  | .leaf (.relationship entity) => accept entity
  | .object members =>
    Relationship.mk <$> readPart members (.only "id") readText (fresh ids)
      <*> readRequired members .fromModel readText
      <*> readRequired members .toModel readText
      <*> readPart members (.only "type") readCardinality (accept .oneToMany)
      <*> readPart members (.only "config") (readRelationClause source) (accept .empty)
  | _ => reject (.notEntity source .relationship)

def readSchema (ids : FreshIds) (source : Source) : Payload → Reading Schema
  | .leaf (.schema entity) => accept entity
  | .object members =>
    Schema.mk <$> readPart members (.only "models") (readList source (readModel ids source))
        (accept [])
      <*> readPart members (.only "relationships") (readList source (readRelationship ids source))
        (accept [])
  | _ => reject (.notEntity source .schema)

/-- An entity of the given kind. -/
def readEntity (ids : FreshIds) (source : Source) : EntityKind → Payload → Reading Entity
  | .field, payload => .field <$> readField source payload
  | .blockAttribute, payload => .blockAttribute <$> readBlockAttribute source payload
  | .model, payload => .model <$> readModel ids source payload
  | .fieldMapping, payload => .fieldMapping <$> readFieldMapping source payload
  | .relationClause, payload => .relationClause <$> readRelationClause source payload
  | .relationship, payload => .relationship <$> readRelationship ids source payload
  | .schema, payload => .schema <$> readSchema ids source payload

end SchemaDesk
