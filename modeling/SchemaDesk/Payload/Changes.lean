import SchemaDesk.Payload.Entities

/-!
# Changes

Changes name parts of a model or a relationship and say what to put there.
Both keys of a part may be used, and the later of two changes to one part
counts. Issues are reported under the plain key. The id of an entity does not
change. Parts that no change names stay as they are.
-/

namespace SchemaDesk

open Reading

/-- Changes in the order in which they were given. -/
abbrev Changes := List (String × Payload)

namespace Changes

/-- The change of a part, under either key; entities in it are taken apart. -/
def part? (changes : Changes) (key : PartKey) : Option Payload :=
  match changes with
  | [] => none
  | (name, payload) :: rest =>
    match part? rest key with
    | some later => some later
    | none =>
      if name = key.saved ∨ name = key.plain then some payload.openEntities else none

/-- The changed part, or the part as it was. -/
def readPart {α : Type} (changes : Changes) (key : PartKey) (read : Payload → Reading α)
    (current : α) : Reading α :=
  match part? changes key with
  | some payload => (read payload).under (.key key.plain)
  | none => accept current

/-- The changes without those of the id. -/
def withoutId (changes : Changes) : Changes :=
  changes.filter fun change => change.1 != "id"

/-- The keys that name no part, in the order of their characters. -/
def unknownKeys (known : List PartKey) (changes : Changes) : List String :=
  let names := changes.withoutId.map (·.1)
  let unknown := names.filter fun name =>
    !known.any fun key => key.saved == name || key.plain == name
  unknown.mergeSort fun first second => first ≤ second

end Changes

/-- The parts of a model that may change. -/
def Model.partKeys : List PartKey :=
  [.only "name", .only "fields", .only "attributes"]

/-- The parts of a relationship that may change. -/
def Relationship.partKeys : List PartKey :=
  [.fromModel, .toModel, .only "type", .only "config"]

/-- The model with the named parts changed. -/
def Model.readChanges (model : Model) (changes : Changes) : Reading Model :=
  Model.mk <$> accept model.id
    <*> changes.readPart (.only "name") readText model.name
    <*> changes.readPart (.only "fields") (readList .value (readField .value)) model.fields
    <*> changes.readPart (.only "attributes") (readList .value (readBlockAttribute .value))
      model.attributes

/-- The relationship with the named parts changed. -/
def Relationship.readChanges (relationship : Relationship) (changes : Changes) :
    Reading Relationship :=
  Relationship.mk <$> accept relationship.id
    <*> changes.readPart .fromModel readText relationship.source
    <*> changes.readPart .toModel readText relationship.target
    <*> changes.readPart (.only "type") readCardinality relationship.cardinality
    <*> changes.readPart (.only "config") (readRelationClause .value) relationship.clause

end SchemaDesk
