import SchemaDesk.Vocabulary

/-!
# Relationships

A relationship leads from the model that owns the foreign key to the model it
refers to. Its clause maps fields of the one to fields of the other and says
what happens when a row that is referred to changes.
-/

namespace SchemaDesk

/-- A field of the source model and the field of the target model that it refers to. -/
structure FieldMapping where
  fieldName : String
  referencedField : String
deriving DecidableEq, Repr

/-- The mapping as a pair of names. -/
def FieldMapping.pair (mapping : FieldMapping) : String × String :=
  (mapping.fieldName, mapping.referencedField)

/-- The mappings of a relationship and the actions that guard them. -/
structure RelationClause where
  onDelete? : Option ReferentialAction
  onUpdate? : Option ReferentialAction
  mappings : List FieldMapping
deriving DecidableEq, Repr

/-- A clause that says nothing. -/
def RelationClause.empty : RelationClause := ⟨none, none, []⟩

/-- A directed association between two models, which are named by their ids. -/
structure Relationship where
  id : String
  source : String
  target : String
  cardinality : Cardinality
  clause : RelationClause
deriving DecidableEq, Repr

namespace Relationship

/-- The model is one of the two ends. -/
def involves (relationship : Relationship) (modelId : String) : Bool :=
  relationship.source == modelId || relationship.target == modelId

/-- Both ends are one model. -/
def isSelfReference (relationship : Relationship) : Bool :=
  relationship.source == relationship.target

/-- The mappings of the clause. -/
def mappings (relationship : Relationship) : List FieldMapping :=
  relationship.clause.mappings

theorem involves_iff (relationship : Relationship) (modelId : String) :
    relationship.involves modelId = true ↔
      relationship.source = modelId ∨ relationship.target = modelId := by
  simp [involves]

end Relationship

end SchemaDesk
