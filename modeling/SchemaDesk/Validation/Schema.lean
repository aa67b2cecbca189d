import SchemaDesk.Validation.Model
import SchemaDesk.Validation.Relationship

/-!
# Validating schemas

The diagnostics of every model and then of every relationship, each with the
entity that it belongs to. A model without a name is called by its id.
-/

namespace SchemaDesk

/-- A diagnostic and the name of its owner. -/
structure OwnedDiagnostic where
  owner : String
  diagnostic : Diagnostic
deriving DecidableEq, Repr

/-- The name under which the diagnostics of a model are reported. -/
def Model.ownerName (model : Model) : String :=
  "model " ++ (if model.name.isEmpty then model.id else model.name)

/-- The name under which the diagnostics of a relationship are reported. -/
def Relationship.ownerName (relationship : Relationship) (names : NameTable) : String :=
  "relationship " ++ names.nameOf relationship.source ++ " -> " ++ names.nameOf relationship.target

/-- The diagnostics of the given models, in their order. -/
def modelDiagnostics : List Model → Except ValidationFailure (List OwnedDiagnostic)
  | [] => .ok []
  | model :: models => do
    let here ← model.validate
    let later ← modelDiagnostics models
    .ok (here.map (⟨model.ownerName, ·⟩) ++ later)

/-- The diagnostics of one relationship of a schema. -/
def Schema.relationshipDiagnostics (schema : Schema) (relationship : Relationship) :
    List OwnedDiagnostic :=
  (relationship.validate schema.models).map
    (⟨relationship.ownerName (nameTable schema.models), ·⟩)

/-- The diagnostics of a schema. -/
def Schema.diagnostics (schema : Schema) : Except ValidationFailure (List OwnedDiagnostic) := do
  let models ← modelDiagnostics schema.models
  .ok (models ++ schema.relationships.flatMap schema.relationshipDiagnostics)

end SchemaDesk
