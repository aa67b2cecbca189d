import SchemaDesk.Proofs.Edit.Position
import SchemaDesk.Proofs.Edit.Proposal
import SchemaDesk.Proofs.Edit.Run
import SchemaDesk.Proofs.Schema.Resolution

/-!
# Gated edits

An edit is gated if it is validated wherever that is optional. Gated edits keep
a schema sound: all models are accepted, both ends of every relationship are
there, and every relationship has mappings without repetition. Deleting and
moving fields need no gate for this, since a model with fewer fields or with
its fields in another order is accepted as before. What they can break is a
mapping, which then names a missing field.
-/

namespace SchemaDesk

/-- The edit is validated, or it is of a kind that never is. -/
def Edit.isGated : Edit → Bool
  | .addModel _ validate | .updateModel _ _ validate | .addField _ _ _ validate
  | .updateField _ _ _ validate | .addRelationship _ validate
  | .updateRelationship _ _ validate => validate
  | .deleteModel _ | .deleteField _ _ | .moveField _ _ _ | .deleteRelationship _ => true

theorem Gate.check_model_eq_ok_iff {models : List Model} {candidate : Model} :
    (Gate.model candidate).check models = .ok () ↔ candidate.validate.Passes := by
  cases checked : candidate.validate with
  | error failure => simp [check, Gate.diagnostics, checked, Verdict.Passes]
  | ok found =>
    cases clean : hasErrors found <;>
      simp [check, Gate.diagnostics, checked, Verdict.passes_ok_iff, clean]

theorem Gate.check_relationship_eq_ok_iff {models : List Model} {candidate : Relationship} :
    (Gate.relationship candidate).check models = .ok () ↔
      candidate.IsSound models ∧ candidate.IsComplete models := by
  rw [← candidate.hasErrors_validate_eq_false_iff]
  cases clean : hasErrors (candidate.validate models) <;> simp [check, Gate.diagnostics, clean]

/-- The id of a model plays no part in its validation. -/
theorem Model.validate_withId (model : Model) (id : String) :
    ({ model with id } : Model).validate = model.validate := rfl

/-- An accepted model stays so with some of its fields in any order. -/
theorem Model.IsAcceptable.withFields {model : Model} (acceptable : model.IsAcceptable)
    {fields : List Field} (kept : fields.Subperm model.fields) :
    ({ model with fields } : Model).IsAcceptable where
  name := acceptable.name
  fieldNames := by
    obtain ⟨chosen, permuted, sublist⟩ := kept
    exact (permuted.map Field.name).nodup (acceptable.fieldNames.sublist (sublist.map _))
  attributes := acceptable.attributes
  eachField field inside := acceptable.eachField field (kept.subset inside)
  eachAttribute := acceptable.eachAttribute

/-- Soundness of a relationship depends on the ids of its ends alone. -/
theorem Relationship.IsSound.of_ends {relationship : Relationship} {models others : List Model}
    (sound : relationship.IsSound models)
    (source : relationship.source ∈ others.map (·.id))
    (target : relationship.target ∈ others.map (·.id)) : relationship.IsSound others :=
  ⟨source, target, sound.mapped, sound.distinct⟩

namespace Schema

/-- All models are accepted, and all relationships are sound. -/
structure IsSound (schema : Schema) : Prop where
  models : ∀ model ∈ schema.models, model.validate.Passes
  relationships : ∀ relationship ∈ schema.relationships, relationship.IsSound schema.models

theorem isSound_empty : empty.IsSound := by
  constructor <;> simp [empty]

namespace IsSound

variable {schema : Schema}

/-- A model that is found stays accepted with some of its fields in any order. -/
theorem passes_withFields (sound : schema.IsSound) {id : String} {old : Model}
    (found : schema.model? id = some old) {fields : List Field}
    (kept : fields.Subperm old.fields) : ({ old with fields } : Model).validate.Passes := by
  have accepted := old.passes_validate_iff.mp (sound.models old (model?_eq_some found).1)
  exact (Model.passes_validate_iff _).mpr (accepted.withFields kept)

theorem appendModel (sound : schema.IsSound) {model : Model} (accepted : model.validate.Passes) :
    (schema.appendModel model).IsSound where
  models := by
    simpa [Schema.appendModel, or_imp, forall_and] using ⟨sound.models, accepted⟩
  relationships relationship inside := by
    have before := sound.relationships relationship inside
    refine before.of_ends ?_ ?_
    · simpa [Schema.appendModel] using .inl (by simpa using before.source)
    · simpa [Schema.appendModel] using .inl (by simpa using before.target)

theorem replaceModel (sound : schema.IsSound) {model : Model} (accepted : model.validate.Passes) :
    (schema.replaceModel model).IsSound where
  models := by
    rw [Schema.replaceModel, List.forall_mem_map]
    intro old inside
    split
    · exact accepted
    · exact sound.models old inside
  relationships relationship inside := by
    have before := sound.relationships relationship inside
    refine before.of_ends ?_ ?_
    · exact map_id_replaceModel schema model ▸ before.source
    · exact map_id_replaceModel schema model ▸ before.target

theorem removeModel (sound : schema.IsSound) (id : String) : (schema.removeModel id).IsSound where
  models model inside := sound.models model (List.mem_of_mem_filter inside)
  relationships relationship inside := by
    obtain ⟨present, apart⟩ := List.mem_filter.mp inside
    have elsewhere : relationship.source ≠ id ∧ relationship.target ≠ id := by
      simpa [Relationship.involves] using apart
    have before := sound.relationships relationship present
    exact before.of_ends (mem_map_id_removeModel.mpr ⟨before.source, elsewhere.1⟩)
      (mem_map_id_removeModel.mpr ⟨before.target, elsewhere.2⟩)

theorem appendRelationship (sound : schema.IsSound) {relationship : Relationship}
    (fits : relationship.IsSound schema.models) :
    (schema.appendRelationship relationship).IsSound where
  models := sound.models
  relationships := by
    simpa [Schema.appendRelationship, or_imp, forall_and] using ⟨sound.relationships, fits⟩

theorem replaceRelationship (sound : schema.IsSound) {relationship : Relationship}
    (fits : relationship.IsSound schema.models) :
    (schema.replaceRelationship relationship).IsSound where
  models := sound.models
  relationships := by
    rw [Schema.replaceRelationship, List.forall_mem_map]
    intro old inside
    split
    · exact fits
    · exact sound.relationships old inside

theorem removeRelationship (sound : schema.IsSound) (id : String) :
    (schema.removeRelationship id).IsSound where
  models := sound.models
  relationships relationship inside :=
    sound.relationships relationship (List.mem_of_mem_filter inside)

/-- A gated edit that succeeds keeps a schema sound. -/
theorem apply (sound : schema.IsSound) {next : Schema} {newId : String} {edit : Edit}
    (gated : edit.isGated = true) (made : edit.apply schema newId = .ok next) : next.IsSound := by
  obtain ⟨gate, proposed, opened⟩ := Edit.apply_eq_ok_iff.mp made
  cases Edit.propose_eq_ok_iff.mp proposed with
  | addModel candidate validate =>
    cases gated
    -- What was validated is the candidate, before it got its id.
    refine sound.appendModel ?_
    rw [Model.validate_withId]
    exact Gate.check_model_eq_ok_iff.mp opened
  | updateModel validate found known read =>
    cases gated
    exact sound.replaceModel (Gate.check_model_eq_ok_iff.mp opened)
  | deleteModel found => exact sound.removeModel _
  | addField field validate found fit =>
    cases gated
    exact sound.replaceModel (Gate.check_model_eq_ok_iff.mp opened)
  | updateField validate found fit replaced =>
    cases gated
    exact sound.replaceModel (Gate.check_model_eq_ok_iff.mp opened)
  | deleteField found fit removed =>
    -- Nothing is validated here: the fields that stay are accepted because all were.
    have kept := (Position.remove?_sublist removed).subperm
    exact sound.replaceModel (sound.passes_withFields found kept)
  | moveField found fit moved =>
    have kept := (Position.move?_perm moved).subperm
    exact sound.replaceModel (sound.passes_withFields found kept)
  | addRelationship candidate validate =>
    cases gated
    obtain ⟨fits, -⟩ := Gate.check_relationship_eq_ok_iff.mp opened
    -- Soundness is rebuilt part by part, since it was shown for the candidate's own id.
    exact sound.appendRelationship ⟨fits.source, fits.target, fits.mapped, fits.distinct⟩
  | updateRelationship validate found known read =>
    cases gated
    exact sound.replaceRelationship (Gate.check_relationship_eq_ok_iff.mp opened).1
  | deleteRelationship found => exact sound.removeRelationship _

end IsSound

/-- Some run of gated edits leads from the empty schema to this one. -/
def IsReached (schema : Schema) : Prop :=
  ∃ steps : List Edit.Step, (∀ step ∈ steps, step.edit.isGated = true) ∧
    empty.after steps = schema

theorem IsReached.isSound {schema : Schema} (reached : schema.IsReached) : schema.IsSound := by
  obtain ⟨steps, gated, rfl⟩ := reached
  exact after_induction (fun sound allowed made => sound.apply allowed made) isSound_empty steps
    gated

/-- Whatever gated edits are made, in whatever order and with whatever ids: every model is accepted,
every relationship has both ends among the models and a mapping at least, none twice, and the only
errors are mapped fields that are missing. -/
theorem errors_of_isReached {schema : Schema} (reached : schema.IsReached) :
    (∀ model ∈ schema.models, ∃ found, model.validate = .ok found ∧ hasErrors found = false) ∧
      (∀ relationship ∈ schema.relationships,
        relationship.source ∈ schema.models.map (·.id) ∧
          relationship.target ∈ schema.models.map (·.id)) ∧
      (∀ relationship ∈ schema.relationships,
        relationship.mappings ≠ [] ∧ (relationship.mappings.map FieldMapping.pair).Nodup) ∧
      ∃ found, schema.diagnostics = .ok found ∧
        ∀ item ∈ found, item.diagnostic.severity = .error → ∃ name,
          item.diagnostic.message = "Field \"" ++ name ++ "\" not found in source model" ∨
            item.diagnostic.message = "Field \"" ++ name ++ "\" not found in target model" := by
  have sound := reached.isSound
  obtain ⟨found, collected, missing⟩ := diagnostics_of_isSound sound.models sound.relationships
  refine ⟨sound.models, fun relationship inside => ?_, fun relationship inside => ?_,
    found, collected, fun item inside blocking => ?_⟩
  · exact ⟨(sound.relationships relationship inside).source,
      (sound.relationships relationship inside).target⟩
  · exact ⟨(sound.relationships relationship inside).mapped,
      (sound.relationships relationship inside).distinct⟩
  · have blocked : item.diagnostic.isError = true := by simp [Diagnostic.isError, blocking]
    obtain ⟨name, atSource | atTarget⟩ := missing item inside blocked
    · exact ⟨name, .inl (by rw [Diagnostic.message, atSource]; rfl)⟩
    · exact ⟨name, .inr (by rw [Diagnostic.message, atTarget]; rfl)⟩

/-- A run that adds users, posts and the relationship between them. -/
def postsOfUsers : List Edit.Step :=
  [⟨.addModel ⟨"", "User", [⟨"key", "Int", true, false, ["id"], none⟩], []⟩ true, "u"⟩,
    ⟨.addModel ⟨"", "Post", [⟨"owner", "Int", true, false, [], none⟩], []⟩ true, "p"⟩,
    ⟨.addRelationship ⟨"", "p", "u", .oneToMany, ⟨none, none, [⟨"owner", "key"⟩]⟩⟩ true, "r"⟩]

/-- Deleting the field that posts map is a gated edit; the schema that it reaches reports an error,
and every error that it reports is a missing field. -/
theorem errors_postsOfUsers_deleteField :
    ∃ schema, empty.after (postsOfUsers ++ [⟨.deleteField "p" 0, ""⟩]) = schema ∧
      schema.IsReached ∧
      ∃ found, schema.diagnostics = .ok found ∧
        found.any (·.diagnostic.isError) = true ∧
        ∀ item ∈ found, item.diagnostic.severity = .error → ∃ name,
          item.diagnostic.message = "Field \"" ++ name ++ "\" not found in source model" ∨
            item.diagnostic.message = "Field \"" ++ name ++ "\" not found in target model" := by
  refine ⟨_, rfl, ?_⟩
  have reached : (empty.after (postsOfUsers ++ [⟨.deleteField "p" 0, ""⟩])).IsReached :=
    ⟨_, by decide, rfl⟩
  obtain ⟨-, -, -, found, collected, missing⟩ := errors_of_isReached reached
  refine ⟨reached, found, collected, ?_, missing⟩
  have computed :
      (empty.after (postsOfUsers ++ [⟨.deleteField "p" 0, ""⟩])).diagnostics.map
        (·.any (·.diagnostic.isError)) = .ok true := by decide
  rw [collected] at computed
  exact Except.ok.inj computed

end Schema

end SchemaDesk
