import SchemaDesk.Edit.Position
import SchemaDesk.Number.Binary64
import SchemaDesk.Payload.Changes
import SchemaDesk.Validation.Schema

/-!
# Edits

An edit is one change of a schema. It first proposes a new schema, which fails
when an id, a key, a value or a position is wrong; then the changed entity has
to pass the gate, unless the edit goes without. An edit that fails leaves the
schema as it was.
-/

namespace SchemaDesk

/-- One change of a schema. Where an edit has a flag, it says whether the changed entity is
validated. -/
inductive Edit where
  | addModel (candidate : Model) (validate : Bool)
  | updateModel (id : String) (changes : Changes) (validate : Bool)
  | deleteModel (id : String)
  | addField (modelId : String) (field : Field) (position? : Option Int) (validate : Bool)
  | updateField (modelId : String) (position : Int) (field : Field) (validate : Bool)
  | deleteField (modelId : String) (position : Int)
  | moveField (modelId : String) (source target : Int)
  | addRelationship (candidate : Relationship) (validate : Bool)
  | updateRelationship (id : String) (changes : Changes) (validate : Bool)
  | deleteRelationship (id : String)

/-- The edit adds an entity and so needs a fresh id. -/
def Edit.adds : Edit → Bool
  | .addModel .. | .addRelationship .. => true
  | _ => false

/-- Why an edit fails. -/
inductive EditError where
  | unknownModel (id : String)
  | unknownRelationship (id : String)
  | unknownKeys (kind : EntityKind) (keys : List String)
  | malformed (rejection : Rejection)
  | noFieldAt
  | noFieldToMove (noFields : Bool)
  | oversizedIndex
  | oversizedPosition
  | invalidModel (name : String) (diagnostics : List Diagnostic)
  | invalidRelationship (source target : String) (diagnostics : List Diagnostic)
  | unchecked (failure : ValidationFailure)
deriving DecidableEq, Repr

/-- The wording of an error; a malformed value is described by its issues instead. -/
def EditError.message : EditError → String
  | .unknownModel id => "Unknown model id: " ++ id
  | .unknownRelationship id => "Unknown relationship id: " ++ id
  | .unknownKeys kind keys => "Unknown " ++ kind.title ++ " field(s): " ++ ", ".intercalate keys
  | .malformed rejection => rejection.title
  | .noFieldAt => "list assignment index out of range"
  | .noFieldToMove true => "pop from empty list"
  | .noFieldToMove false => "pop index out of range"
  | .oversizedIndex => "cannot fit 'int' into an index-sized integer"
  | .oversizedPosition => "Python int too large to convert to C ssize_t"
  | .invalidModel name _ => "Model '" ++ name ++ "' is invalid"
  | .invalidRelationship source target _ =>
    "Relationship " ++ source ++ " -> " ++ target ++ " is invalid"
  | .unchecked failure => failure.message

/-- What has to be valid before a proposal is accepted. -/
inductive Gate where
  | open
  | model (candidate : Model)
  | relationship (candidate : Relationship)
deriving DecidableEq, Repr

/-- A proposed schema behind its gate. -/
structure Proposal where
  gate : Gate
  next : Schema
deriving DecidableEq, Repr

/-- The diagnostics of what stands at the gate; relationships are validated against the models of
the schema before the edit. -/
def Gate.diagnostics (models : List Model) : Gate → Verdict
  | .open => .ok []
  | .model candidate => candidate.validate
  | .relationship candidate => .ok (candidate.validate models)

/-- The error of a gate that does not open. -/
def Gate.refusal (diagnostics : List Diagnostic) : Gate → EditError
  | .relationship candidate =>
    .invalidRelationship candidate.source candidate.target diagnostics
  | .model candidate => .invalidModel candidate.name diagnostics
  | .open => .invalidModel "" diagnostics

/-- The gate opens unless a diagnostic is an error. -/
def Gate.check (models : List Model) (gate : Gate) : Except EditError Unit :=
  match gate.diagnostics models with
  | .error failure => .error (.unchecked failure)
  | .ok diagnostics =>
    if hasErrors diagnostics then .error (gate.refusal diagnostics) else .ok ()

/-- The gate for a model, or none. -/
def Gate.forModel (validate : Bool) (candidate : Model) : Gate :=
  if validate then .model candidate else .open

/-- The gate for a relationship, or none. -/
def Gate.forRelationship (validate : Bool) (candidate : Relationship) : Gate :=
  if validate then .relationship candidate else .open

namespace Schema

/-- The model with the id, or the error that there is none. -/
def requireModel (schema : Schema) (id : String) : Except EditError Model :=
  match schema.model? id with
  | some model => .ok model
  | none => .error (.unknownModel id)

/-- The relationship with the id, or the error that there is none. -/
def requireRelationship (schema : Schema) (id : String) : Except EditError Relationship :=
  match schema.relationship? id with
  | some relationship => .ok relationship
  | none => .error (.unknownRelationship id)

/-- The schema with another model in the place of every one that has its id. -/
def replaceModel (schema : Schema) (model : Model) : Schema :=
  { schema with models := schema.models.map fun old => if old.id = model.id then model else old }

/-- The schema with another relationship in the place of every one that has its id. -/
def replaceRelationship (schema : Schema) (relationship : Relationship) : Schema :=
  { schema with
    relationships := schema.relationships.map fun old =>
      if old.id = relationship.id then relationship else old }

/-- The schema without the models that have the id and without the relationships that mention
it. -/
def removeModel (schema : Schema) (id : String) : Schema where
  models := schema.models.filter fun model => model.id != id
  relationships := schema.relationships.filter fun relationship => !relationship.involves id

/-- The schema without the relationships that have the id. -/
def removeRelationship (schema : Schema) (id : String) : Schema :=
  { schema with
    relationships := schema.relationships.filter fun relationship => relationship.id != id }

/-- The schema with a model at the end. -/
def appendModel (schema : Schema) (model : Model) : Schema :=
  { schema with models := schema.models ++ [model] }

/-- The schema with a relationship at the end. -/
def appendRelationship (schema : Schema) (relationship : Relationship) : Schema :=
  { schema with relationships := schema.relationships ++ [relationship] }

end Schema

/-- The changed entity, or the errors of unknown keys or of malformed values, in this order. -/
def Changes.read {α : Type} (changes : Changes) (kind : EntityKind) (known : List PartKey)
    (reading : Reading α) : Except EditError α :=
  match changes.unknownKeys known with
  | [] =>
    match reading.run with
    | .ok entity => .ok entity
    | .error issues => .error (.malformed ⟨kind.title, issues⟩)
  | keys => .error (.unknownKeys kind keys)

/-- The model with its fields replaced by the result of an operation that may fail. -/
def Model.withFields? (model : Model) (fields? : Option (List Field)) (error : EditError) :
    Except EditError Model :=
  match fields? with
  | some fields => .ok { model with fields }
  | none => .error error

/-- A position has to fit a machine word. -/
def requireFit (error : EditError) (position : Int) : Except EditError Unit :=
  if Number.isWord position then .ok () else .error error

/-- The fields with one more, at the end unless a position is given. -/
def insertField (fields : List Field) (position? : Option Int) (field : Field) : List Field :=
  match position? with
  | none => fields ++ [field]
  | some position => Position.insert fields position field

namespace Edit

/-- The schema that an edit proposes. An added entity takes the given id. -/
def propose (schema : Schema) (newId : String) : Edit → Except EditError Proposal
  | addModel candidate validate =>
    .ok ⟨.forModel validate candidate, schema.appendModel { candidate with id := newId }⟩
  | updateModel id changes validate => do
    let model ← schema.requireModel id
    let model ← changes.read .model Model.partKeys (model.readChanges changes)
    .ok ⟨.forModel validate model, schema.replaceModel model⟩
  | deleteModel id => do
    let _ ← schema.requireModel id
    .ok ⟨.open, schema.removeModel id⟩
  | addField modelId field position? validate => do
    let model ← schema.requireModel modelId
    position?.forM (requireFit .oversizedPosition)
    let model := { model with fields := insertField model.fields position? field }
    .ok ⟨.forModel validate model, schema.replaceModel model⟩
  | updateField modelId position field validate => do
    let model ← schema.requireModel modelId
    requireFit .oversizedIndex position
    let model ← model.withFields? (Position.replace? model.fields position field) .noFieldAt
    .ok ⟨.forModel validate model, schema.replaceModel model⟩
  | deleteField modelId position => do
    let model ← schema.requireModel modelId
    requireFit .oversizedIndex position
    let model ← model.withFields? (Position.remove? model.fields position) .noFieldAt
    .ok ⟨.open, schema.replaceModel model⟩
  | moveField modelId source target => do
    let model ← schema.requireModel modelId
    requireFit .oversizedPosition source
    let model ← model.withFields? (Position.move? model.fields source target)
      (.noFieldToMove model.fields.isEmpty)
    requireFit .oversizedPosition target
    .ok ⟨.open, schema.replaceModel model⟩
  | addRelationship candidate validate =>
    .ok ⟨.forRelationship validate candidate,
      schema.appendRelationship { candidate with id := newId }⟩
  | updateRelationship id changes validate => do
    let relationship ← schema.requireRelationship id
    let relationship ← changes.read .relationship Relationship.partKeys
      (relationship.readChanges changes)
    .ok ⟨.forRelationship validate relationship, schema.replaceRelationship relationship⟩
  | deleteRelationship id => do
    let _ ← schema.requireRelationship id
    .ok ⟨.open, schema.removeRelationship id⟩

/-- The schema after an edit. -/
def apply (schema : Schema) (newId : String) (edit : Edit) : Except EditError Schema := do
  let proposal ← edit.propose schema newId
  proposal.gate.check schema.models
  .ok proposal.next

/-- The schema after an edit that may fail. -/
def applyOrKeep (schema : Schema) (newId : String) (edit : Edit) : Schema :=
  match edit.apply schema newId with
  | .ok next => next
  | .error _ => schema

/-- An edit succeeds exactly if its proposal passes the gate. -/
theorem apply_eq_ok_iff {schema next : Schema} {newId : String} {edit : Edit} :
    edit.apply schema newId = .ok next ↔
      ∃ gate, edit.propose schema newId = .ok ⟨gate, next⟩ ∧ gate.check schema.models = .ok () := by
  unfold apply
  cases proposed : edit.propose schema newId with
  | error _ => simp [bind, Except.bind]
  | ok proposal =>
    obtain ⟨gate, proposedNext⟩ := proposal
    cases checked : gate.check schema.models with
    | error _ =>
      simp only [bind, Except.bind, checked, reduceCtorEq, false_iff, not_exists, not_and]
      intro other same
      cases same
      simp [checked]
    | ok _ =>
      simp only [bind, Except.bind, checked, Except.ok.injEq, Proposal.mk.injEq]
      constructor
      · rintro rfl
        exact ⟨gate, ⟨rfl, rfl⟩, checked⟩
      · rintro ⟨_, ⟨rfl, rfl⟩, _⟩
        rfl

end Edit

end SchemaDesk
