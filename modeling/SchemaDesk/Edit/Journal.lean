import SchemaDesk.Edit.Basic
import SchemaDesk.Log

/-!
# Journals

The records that validation, edits and documents leave. A validation reports
how many diagnostics it has, unless it cannot be carried out; an edit that adds
something, or deletes a model, reports it once it has succeeded.
-/

namespace SchemaDesk

/-- The number of diagnostics, in words. -/
def diagnosticCount (diagnostics : List Diagnostic) : String :=
  toString diagnostics.length ++ " diagnostic(s)"

/-- The record of the validation of a model. -/
def Model.journal (model : Model) : List LogRecord :=
  match model.validate with
  | .ok diagnostics =>
    [.ofValidation ("Model '" ++ model.name ++ "': " ++ diagnosticCount diagnostics)]
  | .error _ => []

/-- The record of the validation of a relationship. -/
def Relationship.journal (relationship : Relationship) (models : List Model) : List LogRecord :=
  [.ofValidation ("Relationship '" ++ relationship.id ++ "': " ++
    diagnosticCount (relationship.validate models))]

/-- The records of the validation of models, up to one that cannot be validated. -/
def modelJournals : List Model → List LogRecord
  | [] => []
  | model :: models =>
    match model.validate with
    | .ok _ => model.journal ++ modelJournals models
    | .error _ => []

/-- The records of the validation of a schema. -/
def Schema.journal (schema : Schema) : List LogRecord :=
  modelJournals schema.models ++
    match modelDiagnostics schema.models with
    | .ok _ => schema.relationships.flatMap (·.journal schema.models)
    | .error _ => []

/-- The record of a document. -/
def Schema.documentJournal (schema : Schema) : List LogRecord :=
  [.ofDocument ("Generated schema for " ++ toString schema.models.length ++ " model(s), " ++
    toString schema.relationships.length ++ " relationship(s)")]

/-- The record of the validation at a gate. -/
def Gate.journal (models : List Model) : Gate → List LogRecord
  | .open => []
  | .model candidate => candidate.journal
  | .relationship candidate => candidate.journal models

namespace Edit

/-- The record of an edit that succeeds. -/
def announcement (schema : Schema) (newId : String) : Edit → List LogRecord
  | addModel candidate _ =>
    [.ofEdit ("Adding model '" ++ candidate.name ++ "' (" ++ newId ++ ")")]
  | deleteModel id =>
    let dropped := schema.relationships.filter fun relationship => relationship.involves id
    [.ofEdit ("Deleting model " ++ id ++ " and " ++ toString dropped.length ++
      " relationship(s)")]
  | addRelationship candidate _ =>
    [.ofEdit ("Adding " ++ candidate.cardinality.name ++ " relationship " ++ candidate.source ++
      " -> " ++ candidate.target)]
  | _ => []

/-- The records of an edit: its validation, and the edit itself if it succeeds. -/
def journal (schema : Schema) (newId : String) (edit : Edit) : List LogRecord :=
  match edit.propose schema newId with
  | .error _ => []
  | .ok proposal =>
    proposal.gate.journal schema.models ++
      match proposal.gate.check schema.models with
      | .ok _ => edit.announcement schema newId
      | .error _ => []

end Edit

end SchemaDesk
