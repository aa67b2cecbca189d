import SchemaDesk.Proofs.Edit.Soundness
import SchemaDesk.Proofs.Payload.Reading

/-!
# Edits of valid schemas

A gated edit of a valid schema gives a valid schema again, unless it takes
fields from a model or renames them: then the schema stays valid exactly if the
mappings at both ends of every relationship still find their fields.
-/

namespace SchemaDesk

/-- The model that the edit rewrites in a way that may take field names from it. -/
def Edit.rewrittenModel? : Edit → Option String
  | .updateModel id _ _ | .updateField id _ _ _ | .deleteField id _ => some id
  | .addModel _ _ | .deleteModel _ | .addField _ _ _ _ | .moveField _ _ _ | .addRelationship _ _
  | .updateRelationship _ _ _ | .deleteRelationship _ => none

namespace Relationship

/-- Every mapping at an end of the relationship that has the id is among the names. -/
def MapsInto (relationship : Relationship) (id : String) (names : List String) : Prop :=
  (relationship.source = id → ∀ mapping ∈ relationship.mappings, mapping.fieldName ∈ names) ∧
    (relationship.target = id → ∀ mapping ∈ relationship.mappings, mapping.referencedField ∈ names)

theorem MapsInto.mono {relationship : Relationship} {id : String} {names more : List String}
    (maps : relationship.MapsInto id names) (kept : names ⊆ more) :
    relationship.MapsInto id more :=
  ⟨fun atSource mapping inside => kept (maps.1 atSource mapping inside),
    fun atTarget mapping inside => kept (maps.2 atTarget mapping inside)⟩

/-- Completeness depends only on the models at the two ends. -/
theorem IsComplete.of_resolve? {relationship : Relationship} {models others : List Model}
    (complete : relationship.IsComplete models)
    (source : ∀ model, resolve? others relationship.source = some model →
      resolve? models relationship.source = some model)
    (target : ∀ model, resolve? others relationship.target = some model →
      resolve? models relationship.target = some model) : relationship.IsComplete others :=
  fun mapping inside => ⟨fun model found => (complete mapping inside).1 model (source model found),
    fun model found => (complete mapping inside).2 model (target model found)⟩

/-- A complete relationship stays so exactly if the fields that it maps are in the model that takes
the place of another. -/
theorem isComplete_replaceModel_iff {schema : Schema} {relationship : Relationship} {edited : Model}
    (sound : relationship.IsSound schema.models)
    (complete : relationship.IsComplete schema.models) :
    relationship.IsComplete (schema.replaceModel edited).models ↔
      relationship.MapsInto edited.id edited.fieldNames := by
  have edited_of_mem {id : String} (present : id ∈ schema.models.map (·.id)) :
      id = edited.id → resolve? (schema.replaceModel edited).models id = some edited := by
    intro same
    obtain ⟨old, found⟩ := exists_resolve?_of_mem present
    rw [Schema.resolve?_replaceModel, if_pos same, found]
    rfl
  constructor
  · intro still
    exact ⟨fun atSource mapping inside =>
        (still mapping inside).1 edited (edited_of_mem sound.source atSource),
      fun atTarget mapping inside =>
        (still mapping inside).2 edited (edited_of_mem sound.target atTarget)⟩
  · intro maps mapping inside
    -- An end is either the edited model, or a model that is found as before.
    constructor
    · intro model found
      by_cases atSource : relationship.source = edited.id
      · rw [edited_of_mem sound.source atSource] at found
        cases found
        exact maps.1 atSource mapping inside
      · rw [Schema.resolve?_replaceModel, if_neg atSource] at found
        exact (complete mapping inside).1 model found
    · intro model found
      by_cases atTarget : relationship.target = edited.id
      · rw [edited_of_mem sound.target atTarget] at found
        cases found
        exact maps.2 atTarget mapping inside
      · rw [Schema.resolve?_replaceModel, if_neg atTarget] at found
        exact (complete mapping inside).2 model found

/-- A complete relationship maps fields of the model that is found under an id. -/
theorem IsComplete.mapsInto {schema : Schema} {relationship : Relationship} {id : String}
    {model : Model} (complete : relationship.IsComplete schema.models)
    (distinct : (schema.models.map (·.id)).Nodup) (found : schema.model? id = some model) :
    relationship.MapsInto id model.fieldNames := by
  -- Edits find the first model with an id and mappings the last; here the two agree.
  have resolved : resolve? schema.models id = some model :=
    (resolve?_eq_find?_of_nodup distinct id).trans found
  exact ⟨fun atSource mapping inside => (complete mapping inside).1 model (atSource ▸ resolved),
    fun atTarget mapping inside => (complete mapping inside).2 model (atTarget ▸ resolved)⟩

end Relationship

namespace Schema

theorem IsValid.isSound {schema : Schema} (valid : schema.IsValid) : schema.IsSound :=
  ⟨(isValid_iff.mp valid).1, fun _ inside => ((isValid_iff.mp valid).2 _ inside).1⟩

theorem IsSound.isValid_iff {schema : Schema} (sound : schema.IsSound) :
    schema.IsValid ↔
      ∀ relationship ∈ schema.relationships, relationship.IsComplete schema.models := by
  rw [Schema.isValid_iff]
  exact ⟨fun valid relationship inside => (valid.2 relationship inside).2, fun complete =>
    ⟨sound.models, fun relationship inside =>
      ⟨sound.relationships relationship inside, complete relationship inside⟩⟩⟩

namespace IsValid

variable {schema : Schema}

theorem isComplete (valid : schema.IsValid) :
    ∀ relationship ∈ schema.relationships, relationship.IsComplete schema.models :=
  valid.isSound.isValid_iff.mp valid

theorem appendModel (valid : schema.IsValid) {model : Model} (accepted : model.validate.Passes)
    (fresh : model.id ∉ schema.models.map (·.id)) : (schema.appendModel model).IsValid := by
  refine (valid.isSound.appendModel accepted).isValid_iff.mpr fun relationship inside => ?_
  have sound := valid.isSound.relationships relationship inside
  have other {id : String} (present : id ∈ schema.models.map (·.id)) :
      resolve? (schema.appendModel model).models id = resolve? schema.models id := by
    have apart : id ≠ model.id := fun same => fresh (same ▸ present)
    rw [Schema.appendModel, resolve?_append_singleton, if_neg apart]
  refine (valid.isComplete relationship inside).of_resolve? ?_ ?_
  · rw [other sound.source]
    exact fun _ found => found
  · rw [other sound.target]
    exact fun _ found => found

/-- Replacing a model keeps a schema valid exactly if all mappings still find their fields. -/
theorem replaceModel_iff (valid : schema.IsValid) {edited : Model}
    (accepted : edited.validate.Passes) :
    (schema.replaceModel edited).IsValid ↔
      ∀ relationship ∈ schema.relationships,
        relationship.MapsInto edited.id edited.fieldNames := by
  rw [(valid.isSound.replaceModel accepted).isValid_iff]
  exact forall₂_congr fun relationship inside => Relationship.isComplete_replaceModel_iff
    (valid.isSound.relationships relationship inside) (valid.isComplete relationship inside)

/-- Giving a model fields that include those it has keeps a schema valid. -/
theorem replaceModel_withFields (valid : schema.IsValid)
    (distinct : (schema.models.map (·.id)).Nodup) {id : String} {old : Model}
    (found : schema.model? id = some old) {fields : List Field}
    (accepted : ({ old with fields } : Model).validate.Passes) (kept : old.fields ⊆ fields) :
    (schema.replaceModel { old with fields }).IsValid := by
  obtain rfl : old.id = id := (model?_eq_some found).2
  refine (valid.replaceModel_iff accepted).mpr fun relationship inside => ?_
  exact ((valid.isComplete relationship inside).mapsInto distinct found).mono
    (List.map_subset Field.name kept)

/-- Replacing a model that is found, under the id that it has. -/
theorem replaceModel_found (valid : schema.IsValid) {id : String} {old edited : Model}
    (found : schema.model? id = some old) (same : edited.id = old.id)
    (accepted : edited.validate.Passes) :
    ∃ result, (schema.replaceModel edited).model? id = some result ∧
      ((schema.replaceModel edited).IsValid ↔
        ∀ relationship ∈ (schema.replaceModel edited).relationships,
          relationship.MapsInto id result.fieldNames) := by
  obtain rfl : edited.id = id := same.trans (model?_eq_some found).2
  refine ⟨edited, ?_, valid.replaceModel_iff accepted⟩
  rw [model?_replaceModel, if_pos rfl, found]
  rfl

theorem removeModel (valid : schema.IsValid) (id : String) : (schema.removeModel id).IsValid := by
  refine (valid.isSound.removeModel id).isValid_iff.mpr fun relationship inside => ?_
  have before := valid.isComplete relationship (List.mem_of_mem_filter inside)
  -- Removing a model makes no other model known, so no mapping is checked anew.
  have kept {other : String} {model : Model}
      (found : resolve? (schema.removeModel id).models other = some model) :
      resolve? schema.models other = some model := by
    rw [Schema.resolve?_removeModel] at found
    split at found
    · cases found
    · exact found
  exact before.of_resolve? (fun _ => kept) (fun _ => kept)

theorem appendRelationship (valid : schema.IsValid) {relationship : Relationship}
    (sound : relationship.IsSound schema.models)
    (complete : relationship.IsComplete schema.models) :
    (schema.appendRelationship relationship).IsValid := by
  refine (valid.isSound.appendRelationship sound).isValid_iff.mpr ?_
  simpa [Schema.appendRelationship, or_imp, forall_and] using ⟨valid.isComplete, complete⟩

theorem replaceRelationship (valid : schema.IsValid) {relationship : Relationship}
    (sound : relationship.IsSound schema.models)
    (complete : relationship.IsComplete schema.models) :
    (schema.replaceRelationship relationship).IsValid := by
  refine (valid.isSound.replaceRelationship sound).isValid_iff.mpr ?_
  rw [Schema.replaceRelationship, List.forall_mem_map]
  intro old inside
  split
  · exact complete
  · exact valid.isComplete old inside

theorem removeRelationship (valid : schema.IsValid) (id : String) :
    (schema.removeRelationship id).IsValid :=
  (valid.isSound.removeRelationship id).isValid_iff.mpr fun relationship inside =>
    valid.isComplete relationship (List.mem_of_mem_filter inside)

end IsValid

/-- Gated edits of a schema whose models have distinct ids: most keep it valid. Changing a model, or
replacing or deleting one of its fields, does so exactly if every mapping at either end that refers
to the model still finds its field there. -/
theorem isValid_apply {schema next : Schema} {newId : String} {edit : Edit}
    (distinct : (schema.models.map (·.id)).Nodup) (valid : schema.IsValid)
    (gated : edit.isGated = true)
    (fresh : edit.adds = true → newId ∉ schema.models.map (·.id))
    (made : edit.apply schema newId = .ok next) :
    (edit.rewrittenModel? = none → next.IsValid) ∧
      ∀ id, edit.rewrittenModel? = some id → ∃ edited, next.model? id = some edited ∧
        (next.IsValid ↔ ∀ relationship ∈ next.relationships,
          (relationship.source = id →
            ∀ mapping ∈ relationship.mappings, mapping.fieldName ∈ edited.fieldNames) ∧
          (relationship.target = id →
            ∀ mapping ∈ relationship.mappings, mapping.referencedField ∈ edited.fieldNames)) := by
  obtain ⟨gate, proposed, opened⟩ := Edit.apply_eq_ok_iff.mp made
  cases Edit.propose_eq_ok_iff.mp proposed with
  | addModel candidate validate =>
    cases gated
    refine ⟨fun _ => valid.appendModel ?_ (fresh rfl), nofun⟩
    rw [Model.validate_withId]
    exact Gate.check_model_eq_ok_iff.mp opened
  | updateModel validate found known read =>
    cases gated
    refine ⟨nofun, fun id rewrites => ?_⟩
    cases rewrites
    exact valid.replaceModel_found found (Model.id_of_readChanges read)
      (Gate.check_model_eq_ok_iff.mp opened)
  | deleteModel found => exact ⟨fun _ => valid.removeModel _, nofun⟩
  | addField field validate found fit =>
    cases gated
    exact ⟨fun _ => valid.replaceModel_withFields distinct found
      (Gate.check_model_eq_ok_iff.mp opened) (subset_insertField _ _ _), nofun⟩
  | updateField validate found fit replaced =>
    cases gated
    refine ⟨nofun, fun id rewrites => ?_⟩
    cases rewrites
    exact valid.replaceModel_found found rfl (Gate.check_model_eq_ok_iff.mp opened)
  | deleteField found fit removed =>
    refine ⟨nofun, fun id rewrites => ?_⟩
    cases rewrites
    have accepted :=
      valid.isSound.passes_withFields found (Position.remove?_sublist removed).subperm
    exact valid.replaceModel_found found rfl accepted
  | moveField found fit moved =>
    have permuted := Position.move?_perm moved
    have accepted := valid.isSound.passes_withFields found permuted.subperm
    exact ⟨fun _ => valid.replaceModel_withFields distinct found accepted permuted.symm.subset,
      nofun⟩
  | addRelationship candidate validate =>
    cases gated
    obtain ⟨sound, complete⟩ := Gate.check_relationship_eq_ok_iff.mp opened
    exact ⟨fun _ => valid.appendRelationship
      ⟨sound.source, sound.target, sound.mapped, sound.distinct⟩ complete, nofun⟩
  | updateRelationship validate found known read =>
    cases gated
    obtain ⟨sound, complete⟩ := Gate.check_relationship_eq_ok_iff.mp opened
    exact ⟨fun _ => valid.replaceRelationship sound complete, nofun⟩
  | deleteRelationship found => exact ⟨fun _ => valid.removeRelationship _, nofun⟩

/-- Moving a field keeps the schema of posts and users valid; deleting the one that posts map does
not. -/
theorem isValid_apply_postsOfUsers :
    (empty.after postsOfUsers).IsValid ∧
      (∃ next, Edit.apply (empty.after postsOfUsers) "" (.moveField "p" 0 1) = .ok next ∧
        next.IsValid) ∧
      ∃ next, Edit.apply (empty.after postsOfUsers) "" (.deleteField "p" 0) = .ok next ∧
        ¬ next.IsValid := by
  have distinct : ((empty.after postsOfUsers).models.map (·.id)).Nodup := by decide
  have valid : (empty.after postsOfUsers).IsValid := ⟨_, rfl, by decide⟩
  have moved : Edit.apply (empty.after postsOfUsers) "" (.moveField "p" 0 1) = .ok _ := rfl
  have deleted : Edit.apply (empty.after postsOfUsers) "" (.deleteField "p" 0) = .ok _ := rfl
  refine ⟨valid, ⟨_, moved, ?_⟩, _, deleted, ?_⟩
  · exact (isValid_apply distinct valid (by decide) (by decide) moved).1 rfl
  · obtain ⟨edited, found, keeps⟩ :=
      (isValid_apply distinct valid (by decide) (by decide) deleted).2 "p" rfl
    rw [keeps]
    cases found
    decide

end Schema

end SchemaDesk
