import SchemaDesk.Proofs.Edit.Proposal
import SchemaDesk.Proofs.Edit.Soundness
import SchemaDesk.Proofs.Payload.Reading
import SchemaDesk.Proofs.Schema.Resolution

/-!
# What edits touch

An edit touches the entity that it addresses: an entity is added at the end,
changed in its place or taken out, and every other one stays where it is. Only
the removal of a model takes more along, the relationships that have it as an
end. For this the ids have to be distinct, and they are after every run that
gives added entities new ids, whether or not its edits are validated.
-/

namespace SchemaDesk

/-- The ids stay in their order, and so does every entry that has another id. -/
structure KeepsOthers {α : Type} (idOf : α → String) (id : String) (before after : List α) :
    Prop where
  ids : after.map idOf = before.map idOf
  others : ∀ (position : Nat) (entry : α), before[position]? = some entry → idOf entry ≠ id →
    after[position]? = some entry

/-- An entry that is put in the place of those with its id leaves the others alone. -/
theorem keepsOthers_replace {α : Type} {idOf : α → String} (entries : List α) (edited : α) :
    KeepsOthers idOf (idOf edited) entries
      (entries.map fun old => if idOf old = idOf edited then edited else old) where
  ids := map_map_replace fun _ _ replaced => replaced.symm
  others position entry found apart := by simp [found, apart]

namespace Schema

/-- No two models share an id, and no two relationships do. -/
structure HasDistinctIds (schema : Schema) : Prop where
  models : (schema.models.map (·.id)).Nodup
  relationships : (schema.relationships.map (·.id)).Nodup

theorem hasDistinctIds_empty : empty.HasDistinctIds := by
  constructor <;> exact List.nodup_nil

/-- From the one schema to the other, nothing changes but the fields of the model with the id. -/
structure ChangesFields (schema next : Schema) (id : String) : Prop where
  models : KeepsOthers Model.id id schema.models next.models
  names : next.models.map (·.name) = schema.models.map (·.name)
  attributes : next.models.map (·.attributes) = schema.models.map (·.attributes)
  relationships : next.relationships = schema.relationships

/-- Where ids are distinct, a model with new fields takes the place of the one it comes from. -/
theorem HasDistinctIds.changesFields {schema : Schema} (distinct : schema.HasDistinctIds)
    {id : String} {old : Model} (found : schema.model? id = some old) (fields : List Field) :
    schema.ChangesFields (schema.replaceModel { old with fields }) id := by
  obtain ⟨inside, rfl⟩ := model?_eq_some found
  have same : ∀ model ∈ schema.models, model.id = old.id → old = model := fun model present named =>
    List.inj_on_of_nodup_map distinct.models inside present named.symm
  exact {
    models := keepsOthers_replace schema.models { old with fields }
    names := map_map_replace fun model present named => by rw [← same model present named]
    attributes := map_map_replace fun model present named => by rw [← same model present named]
    relationships := rfl }

end Schema

namespace Edit

/-- What an edit that succeeds does to the schema, and that it does nothing else. -/
def HasEffect (schema next : Schema) (newId : String) : Edit → Prop
  | addModel candidate _ =>
    next.models = schema.models ++ [{ candidate with id := newId }] ∧
      next.relationships = schema.relationships
  | updateModel id _ _ =>
    KeepsOthers Model.id id schema.models next.models ∧
      next.relationships = schema.relationships
  | addField id _ _ _ | updateField id _ _ _ | deleteField id _ | moveField id _ _ =>
    schema.ChangesFields next id
  | deleteModel id =>
    next.models = schema.models.filter (·.id ≠ id) ∧
      next.relationships = schema.relationships.filter fun relationship =>
        relationship.source ≠ id ∧ relationship.target ≠ id
  | addRelationship candidate _ =>
    next.models = schema.models ∧
      next.relationships = schema.relationships ++ [{ candidate with id := newId }]
  | updateRelationship id _ _ =>
    next.models = schema.models ∧
      KeepsOthers Relationship.id id schema.relationships next.relationships
  | deleteRelationship id =>
    next.models = schema.models ∧
      next.relationships = schema.relationships.filter (·.id ≠ id)

/-- Where ids are distinct, every edit that succeeds has its effect. -/
theorem hasEffect_apply {schema next : Schema} {newId : String} {edit : Edit}
    (distinct : schema.HasDistinctIds) (made : edit.apply schema newId = .ok next) :
    edit.HasEffect schema next newId := by
  obtain ⟨gate, proposed, -⟩ := apply_eq_ok_iff.mp made
  cases propose_eq_ok_iff.mp proposed with
  | addModel candidate validate => exact ⟨rfl, rfl⟩
  | @updateModel _ _ old new validate found known read =>
    have named : new.id = _ :=
      (Model.id_of_readChanges read).trans (Schema.model?_eq_some found).2
    exact ⟨named ▸ keepsOthers_replace schema.models new, rfl⟩
  | deleteModel found =>
    refine ⟨List.filter_congr fun model _ => ?_, List.filter_congr fun relationship _ => ?_⟩
    · rw [Bool.eq_iff_iff]
      simp
    · rw [Bool.eq_iff_iff]
      simp [Relationship.involves]
  | addField field validate found fit => exact distinct.changesFields found _
  | updateField validate found fit replaced => exact distinct.changesFields found _
  | deleteField found fit removed => exact distinct.changesFields found _
  | moveField found fit moved => exact distinct.changesFields found _
  | addRelationship candidate validate => exact ⟨rfl, rfl⟩
  | @updateRelationship _ _ old new validate found known read =>
    have named : new.id = _ :=
      (Relationship.id_of_readChanges read).trans (Schema.relationship?_eq_some found).2
    exact ⟨rfl, named ▸ keepsOthers_replace schema.relationships new⟩
  | deleteRelationship found =>
    refine ⟨rfl, List.filter_congr fun relationship _ => ?_⟩
    rw [Bool.eq_iff_iff]
    simp

/-- The ids that an entity added by the edit may not take. -/
def takenIds (schema : Schema) : Edit → List String
  | addModel _ _ => schema.models.map (·.id)
  | addRelationship _ _ => schema.relationships.map (·.id)
  | _ => []

/-- What has the effect of an edit that gives a new id keeps ids distinct. -/
theorem HasEffect.hasDistinctIds {schema next : Schema} {newId : String} {edit : Edit}
    (effect : edit.HasEffect schema next newId) (distinct : schema.HasDistinctIds)
    (fresh : newId ∉ edit.takenIds schema) : next.HasDistinctIds := by
  cases edit with
  | addModel candidate validate =>
    refine ⟨?_, effect.2 ▸ distinct.relationships⟩
    rw [effect.1, List.map_append, List.nodup_append_comm]
    exact List.nodup_cons.mpr ⟨fresh, distinct.models⟩
  | addRelationship candidate validate =>
    refine ⟨effect.1 ▸ distinct.models, ?_⟩
    rw [effect.2, List.map_append, List.nodup_append_comm]
    exact List.nodup_cons.mpr ⟨fresh, distinct.relationships⟩
  | updateModel id changes validate =>
    exact ⟨effect.1.ids ▸ distinct.models, effect.2 ▸ distinct.relationships⟩
  | updateRelationship id changes validate =>
    exact ⟨effect.1 ▸ distinct.models, effect.2.ids ▸ distinct.relationships⟩
  | addField | updateField | deleteField | moveField =>
    exact ⟨effect.models.ids ▸ distinct.models, effect.relationships ▸ distinct.relationships⟩
  | deleteModel id =>
    constructor
    · rw [effect.1]
      exact distinct.models.sublist (List.filter_sublist.map _)
    · rw [effect.2]
      exact distinct.relationships.sublist (List.filter_sublist.map _)
  | deleteRelationship id =>
    refine ⟨effect.1 ▸ distinct.models, ?_⟩
    rw [effect.2]
    exact distinct.relationships.sublist (List.filter_sublist.map _)

end Edit

namespace Schema

/-- Every edit of a run that adds an entity gives it an id that no other one of its kind has. -/
def TakesFreshIds (schema : Schema) (steps : List Edit.Step) : Prop :=
  schema.AllowedAlong (fun current step => step.newId ∉ step.edit.takenIds current) steps

instance (schema : Schema) (steps : List Edit.Step) : Decidable (schema.TakesFreshIds steps) :=
  decidableAllowedAlong _ schema steps

/-- Runs that take fresh ids keep ids distinct. -/
theorem HasDistinctIds.after {schema : Schema} (distinct : schema.HasDistinctIds)
    {steps : List Edit.Step} (fresh : schema.TakesFreshIds steps) :
    (schema.after steps).HasDistinctIds :=
  after_induction_along
    (fun distinct fresh made => (Edit.hasEffect_apply distinct made).hasDistinctIds distinct fresh)
    distinct steps fresh

/-- Whatever edits are made from the empty schema, validated or not: as long as added entities get
new ids, ids are distinct, and the next edit that succeeds has its effect and no other. -/
theorem hasDistinctIds_and_hasEffect_of_takesFreshIds {steps : List Edit.Step}
    (fresh : empty.TakesFreshIds steps) :
    (empty.after steps).HasDistinctIds ∧
      ∀ {next : Schema} {newId : String} {edit : Edit},
        edit.apply (empty.after steps) newId = .ok next →
          edit.HasEffect (empty.after steps) next newId := by
  have distinct := hasDistinctIds_empty.after fresh
  exact ⟨distinct, Edit.hasEffect_apply distinct⟩

/-- The run of `postsOfUsers`, after which users take another name, a field without a type and,
in vain, the id of the posts. -/
def renamedUsers : List Edit.Step :=
  postsOfUsers ++
    [⟨.updateModel "u" [("id", .text "p"), ("name", .text "Person")] false, ""⟩,
      ⟨.addField "u" ⟨"note", "", false, false, [], none⟩ none false, ""⟩]

/-- After this run the ids are those that were given, and deleting the users leaves the posts, and
no relationship. -/
theorem hasEffect_renamedUsers_deleteModel :
    empty.TakesFreshIds renamedUsers ∧ (empty.after renamedUsers).HasDistinctIds ∧
      (empty.after renamedUsers).models.map (fun model => (model.id, model.name)) =
        [("u", "Person"), ("p", "Post")] ∧
      ∃ next, (Edit.deleteModel "u").apply (empty.after renamedUsers) "" = .ok next ∧
        (Edit.deleteModel "u").HasEffect (empty.after renamedUsers) next "" ∧
        next.models.map (·.id) = ["p"] ∧ next.relationships = [] := by
  have fresh : empty.TakesFreshIds renamedUsers := by decide +kernel
  obtain ⟨distinct, effect⟩ := hasDistinctIds_and_hasEffect_of_takesFreshIds fresh
  have made : (Edit.deleteModel "u").apply (empty.after renamedUsers) "" =
      .ok ((empty.after renamedUsers).removeModel "u") := by decide +kernel
  exact ⟨fresh, distinct, by decide +kernel, _, made, effect made, by decide +kernel,
    by decide +kernel⟩

end Schema

end SchemaDesk
