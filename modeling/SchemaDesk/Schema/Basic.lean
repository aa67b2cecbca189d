import SchemaDesk.Schema.Model
import SchemaDesk.Schema.Relationship

/-!
# Schemas

A schema is a list of models and a list of relationships between them. Both
keep their order, which is the order of the document. Looking up an id finds
the first entry that has it; resolving an id against all models finds the last.
Where ids are distinct the two agree.
-/

namespace SchemaDesk

structure Schema where
  models : List Model
  relationships : List Relationship
deriving DecidableEq, Repr

namespace Schema

/-- The schema without models. -/
def empty : Schema := ⟨[], []⟩

/-- The first model with the id. -/
def model? (schema : Schema) (id : String) : Option Model :=
  schema.models.find? fun model => model.id == id

/-- The first relationship with the id. -/
def relationship? (schema : Schema) (id : String) : Option Relationship :=
  schema.relationships.find? fun relationship => relationship.id == id

/-- The model that was found has the id and belongs to the schema. -/
theorem model?_eq_some {schema : Schema} {id : String} {model : Model}
    (found : schema.model? id = some model) : model ∈ schema.models ∧ model.id = id :=
  ⟨List.mem_of_find?_eq_some found, by simpa using List.find?_some found⟩

/-- The relationship that was found has the id and belongs to the schema. -/
theorem relationship?_eq_some {schema : Schema} {id : String} {relationship : Relationship}
    (found : schema.relationship? id = some relationship) :
    relationship ∈ schema.relationships ∧ relationship.id = id :=
  ⟨List.mem_of_find?_eq_some found, by simpa using List.find?_some found⟩

end Schema

/-- The last model with the id. -/
def resolve? (models : List Model) (id : String) : Option Model :=
  models.reverse.find? fun model => model.id == id

/-- An id resolves exactly if some model has it. -/
theorem resolve?_isSome_iff (models : List Model) (id : String) :
    (resolve? models id).isSome = true ↔ id ∈ models.map (·.id) := by
  simp [resolve?]

/-- Names of models by their ids. -/
abbrev NameTable := List (String × String)

/-- The names of the given models. -/
def nameTable (models : List Model) : NameTable :=
  models.map fun model => (model.id, model.name)

/-- The name under an id; the last entry counts, and an unknown id stands for itself. -/
def NameTable.nameOf (table : NameTable) (id : String) : String :=
  match table.reverse.find? fun entry => entry.1 == id with
  | some entry => entry.2
  | none => id

/-- The last model with an id gives it its name. -/
theorem nameOf_nameTable (models : List Model) (id : String) :
    (nameTable models).nameOf id = ((resolve? models id).map (·.name)).getD id := by
  simp only [NameTable.nameOf, nameTable, resolve?, ← List.map_reverse, List.find?_map]
  cases h : models.reverse.find?
    ((fun entry => entry.1 == id) ∘ fun model => (model.id, model.name))
    with
  | none =>
    have same : models.reverse.find? (fun model => model.id == id) = none := h
    simp [same]
  | some model =>
    have same : models.reverse.find? (fun model => model.id == id) = some model := h
    simp [same]

end SchemaDesk
