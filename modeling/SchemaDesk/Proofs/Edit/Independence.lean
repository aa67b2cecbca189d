import Mathlib.Data.List.Perm.Basic
import SchemaDesk.Proofs.Edit.Proposal
import SchemaDesk.Proofs.Edit.Run
import SchemaDesk.Proofs.Edit.Soundness
import SchemaDesk.Proofs.Payload.Reading
import SchemaDesk.Proofs.Schema.Resolution

/-!
# Edits of different entities

Edits that are made to different entities do not see each other. What an edit
does, and the error it fails with, depend on the entity that it is made to; a
change of a relationship depends on the models too, since it is validated
against them. So two edits come to the same schema in both orders if neither
reaches what the other one depends on, and so do any number of them in any
order.
-/

namespace SchemaDesk

namespace Edit

/-- The model that an edit changes or deletes. -/
def modelId? : Edit → Option String
  | updateModel id _ _ | deleteModel id | addField id _ _ _ | updateField id _ _ _
  | deleteField id _ | moveField id _ _ => some id
  | _ => none

/-- The relationship that an edit changes or deletes. -/
def relationshipId? : Edit → Option String
  | updateRelationship id _ _ | deleteRelationship id => some id
  | _ => none

/-- The edit deletes the model or the relationship that it is made to. -/
def deletesEntity : Edit → Bool
  | deleteModel _ | deleteRelationship _ => true
  | _ => false

/-- The edits are made to two models, to two relationships, or one changes a model and the other one
deletes a relationship. -/
inductive IsApartFrom : Edit → Edit → Prop
  | models {first second : Edit} {id other : String} (toModel : first.modelId? = some id)
      (toOther : second.modelId? = some other) (distinct : id ≠ other) : IsApartFrom first second
  | relationships {first second : Edit} {id other : String}
      (toRelationship : first.relationshipId? = some id)
      (toOther : second.relationshipId? = some other) (distinct : id ≠ other) :
      IsApartFrom first second
  | modelAndRelationship {first second : Edit} {id other : String}
      (toModel : first.modelId? = some id) (keeps : first.deletesEntity = false)
      (toRelationship : second.relationshipId? = some other)
      (deletes : second.deletesEntity = true) : IsApartFrom first second
  | relationshipAndModel {first second : Edit} {id other : String}
      (toRelationship : first.relationshipId? = some id) (deletes : first.deletesEntity = true)
      (toModel : second.modelId? = some other) (keeps : second.deletesEntity = false) :
      IsApartFrom first second

theorem IsApartFrom.symm {first second : Edit} (apart : first.IsApartFrom second) :
    second.IsApartFrom first := by
  cases apart with
  | models toModel toOther distinct => exact .models toOther toModel distinct.symm
  | relationships toModel toOther distinct => exact .relationships toOther toModel distinct.symm
  | modelAndRelationship toModel keeps toRelationship deletes =>
    exact .relationshipAndModel toRelationship deletes toModel keeps
  | relationshipAndModel toRelationship deletes toModel keeps =>
    exact .modelAndRelationship toModel keeps toRelationship deletes

/-- The error that an edit fails with, if it fails. -/
def error? (schema : Schema) (newId : String) (edit : Edit) : Option EditError :=
  match edit.apply schema newId with
  | .ok _ => none
  | .error problem => some problem

/-- An edit that fails leaves the schema as it was. -/
theorem applyOrKeep_of_error? {schema : Schema} {newId : String} {edit : Edit}
    (fails : edit.error? schema newId ≠ none) : edit.applyOrKeep schema newId = schema := by
  unfold error? at fails
  unfold applyOrKeep
  split
  · next made => simp [made] at fails
  · rfl

end Edit

/-- What an edit may do to the entities that are there. -/
inductive Alteration where
  | keep
  | replaceModel (edited : Model)
  | removeModel (id : String)
  | replaceRelationship (edited : Relationship)
  | removeRelationship (id : String)

namespace Alteration

/-- The schema after an alteration. -/
def on (schema : Schema) : Alteration → Schema
  | keep => schema
  | replaceModel edited => schema.replaceModel edited
  | removeModel id => schema.removeModel id
  | replaceRelationship edited => schema.replaceRelationship edited
  | removeRelationship id => schema.removeRelationship id

/-- The alteration is one of the entity that the edit is made to, and removes it if the edit
does. -/
inductive IsOf (edit : Edit) : Alteration → Prop
  | keep : IsOf edit .keep
  | replaceModel {edited : Model} (toModel : edit.modelId? = some edited.id)
      (keeps : edit.deletesEntity = false) : IsOf edit (.replaceModel edited)
  | removeModel {id : String} (toModel : edit.modelId? = some id)
      (deletes : edit.deletesEntity = true) : IsOf edit (.removeModel id)
  | replaceRelationship {edited : Relationship}
      (toRelationship : edit.relationshipId? = some edited.id)
      (keeps : edit.deletesEntity = false) : IsOf edit (.replaceRelationship edited)
  | removeRelationship {id : String} (toRelationship : edit.relationshipId? = some id)
      (deletes : edit.deletesEntity = true) : IsOf edit (.removeRelationship id)

end Alteration

/-! ## What an edit depends on -/

namespace Edit

/-- The schemas have in common what the edit depends on. -/
structure SeesSame (edit : Edit) (first second : Schema) : Prop where
  model : ∀ id ∈ edit.modelId?, first.model? id = second.model? id
  relationship : ∀ id ∈ edit.relationshipId?, first.relationship? id = second.relationship? id
  models : edit.relationshipId?.isSome = true → edit.deletesEntity = false →
    first.models = second.models

theorem SeesSame.refl (edit : Edit) (schema : Schema) : edit.SeesSame schema schema :=
  ⟨fun _ _ => rfl, fun _ _ => rfl, fun _ _ => rfl⟩

/-- The edit ends with the same error on both schemas, or with the same alteration of both. -/
inductive EndsAlike (edit : Edit) (first second : Schema) :
    Except EditError Schema → Except EditError Schema → Prop
  | error (problem : EditError) : EndsAlike edit first second (.error problem) (.error problem)
  | ok {alteration : Alteration} (made : alteration.IsOf edit) :
      EndsAlike edit first second (.ok (alteration.on first)) (.ok (alteration.on second))

variable {edit : Edit} {first second : Schema}

/-- What follows a step that has one result on both schemas may be compared for this result. -/
theorem EndsAlike.after {α : Type} {step other : Except EditError α}
    {rest otherRest : α → Except EditError Schema} (same : step = other)
    (later : ∀ value, step = .ok value →
      EndsAlike edit first second (rest value) (otherRest value)) :
    EndsAlike edit first second (step >>= rest) (other >>= otherRest) := by
  subst same
  cases step with
  | error problem => exact .error problem
  | ok value => exact later value rfl

/-- A gate that both schemas open or keep closed lets the same alteration through. -/
theorem EndsAlike.behind {gate : Gate} {alteration : Alteration} (made : alteration.IsOf edit)
    (same : gate.check first.models = gate.check second.models) :
    EndsAlike edit first second
      ((.ok ⟨gate, alteration.on first⟩ : Except EditError Proposal) >>= fun proposal =>
        proposal.gate.check first.models >>= fun _ => .ok proposal.next)
      ((.ok ⟨gate, alteration.on second⟩ : Except EditError Proposal) >>= fun proposal =>
        proposal.gate.check second.models >>= fun _ => .ok proposal.next) := by
  show EndsAlike edit first second (gate.check first.models >>= fun _ => .ok (alteration.on first))
    (gate.check second.models >>= fun _ => .ok (alteration.on second))
  exact .after same fun _ _ => .ok made

end Edit

/-- Models are validated on their own. -/
theorem Gate.check_forModel (models others : List Model) (validate : Bool) (candidate : Model) :
    (Gate.forModel validate candidate).check models =
      (Gate.forModel validate candidate).check others := by
  cases validate with
  | false => rfl
  | true => rfl

namespace Edit

variable {edit : Edit} {first second : Schema}

theorem SeesSame.requireModel (same : edit.SeesSame first second) {id : String}
    (toModel : edit.modelId? = some id) : first.requireModel id = second.requireModel id := by
  rw [Schema.requireModel, Schema.requireModel, same.model id toModel]

theorem SeesSame.requireRelationship (same : edit.SeesSame first second) {id : String}
    (toRelationship : edit.relationshipId? = some id) :
    first.requireRelationship id = second.requireRelationship id := by
  rw [Schema.requireRelationship, Schema.requireRelationship, same.relationship id toRelationship]

theorem id_of_requireModel {schema : Schema} {id : String} {model : Model}
    (found : schema.requireModel id = .ok model) : model.id = id :=
  (Schema.model?_eq_some (Schema.requireModel_eq_ok_iff.mp found)).2

/-- An edit that is made to a model or to a relationship ends alike on schemas that have in common
what it depends on. -/
theorem SeesSame.endsAlike (same : edit.SeesSame first second) (addressed : edit.adds = false)
    (newId : String) :
    EndsAlike edit first second (edit.apply first newId) (edit.apply second newId) := by
  cases edit with
  | addModel candidate validate => cases addressed
  | updateModel id changes validate =>
    simp only [apply, propose, bind_assoc]
    refine .after (same.requireModel rfl) fun old found => .after rfl fun new read => ?_
    obtain ⟨-, changed⟩ := Changes.read_eq_ok_iff.mp read
    have named : new.id = id := (Model.id_of_readChanges changed).trans (id_of_requireModel found)
    exact .behind (.replaceModel (named ▸ rfl) rfl) (Gate.check_forModel _ _ _ _)
  | deleteModel id =>
    simp only [apply, propose, bind_assoc]
    refine .after (same.requireModel rfl) fun old found => ?_
    exact .behind (Alteration.IsOf.removeModel rfl rfl) rfl
  | addField id field position? validate =>
    simp only [apply, propose, bind_assoc]
    refine .after (same.requireModel rfl) fun old found => .after rfl fun _ fit => ?_
    have named : old.id = id := id_of_requireModel found
    exact .behind (.replaceModel (named ▸ rfl) rfl) (Gate.check_forModel _ _ _ _)
  | updateField id position field validate =>
    simp only [apply, propose, bind_assoc]
    refine .after (same.requireModel rfl) fun old found => .after rfl fun _ fit =>
      .after rfl fun new replaced => ?_
    obtain ⟨fields, -, rfl⟩ := Model.withFields?_eq_ok_iff.mp replaced
    have named : old.id = id := id_of_requireModel found
    exact .behind (.replaceModel (named ▸ rfl) rfl) (Gate.check_forModel _ _ _ _)
  | deleteField id position =>
    simp only [apply, propose, bind_assoc]
    refine .after (same.requireModel rfl) fun old found => .after rfl fun _ fit =>
      .after rfl fun new removed => ?_
    obtain ⟨fields, -, rfl⟩ := Model.withFields?_eq_ok_iff.mp removed
    have named : old.id = id := id_of_requireModel found
    exact .behind (.replaceModel (named ▸ rfl) rfl) rfl
  | moveField id source target =>
    simp only [apply, propose, bind_assoc]
    refine .after (same.requireModel rfl) fun old found => .after rfl fun _ fitSource =>
      .after rfl fun new moved => .after rfl fun _ fitTarget => ?_
    obtain ⟨fields, -, rfl⟩ := Model.withFields?_eq_ok_iff.mp moved
    have named : old.id = id := id_of_requireModel found
    exact .behind (.replaceModel (named ▸ rfl) rfl) rfl
  | addRelationship candidate validate => cases addressed
  | updateRelationship id changes validate =>
    simp only [apply, propose, bind_assoc]
    refine .after (same.requireRelationship rfl) fun old found => .after rfl fun new read => ?_
    obtain ⟨-, changed⟩ := Changes.read_eq_ok_iff.mp read
    have present := Schema.requireRelationship_eq_ok_iff.mp found
    have named : new.id = id :=
      (Relationship.id_of_readChanges changed).trans (Schema.relationship?_eq_some present).2
    -- The gate looks at the models, which the schemas have in common too.
    exact .behind (.replaceRelationship (named ▸ rfl) rfl) (by rw [same.models rfl rfl])
  | deleteRelationship id =>
    simp only [apply, propose, bind_assoc]
    refine .after (same.requireRelationship rfl) fun old found => ?_
    exact .behind (Alteration.IsOf.removeRelationship rfl rfl) rfl

/-! ## What apart edits do to each other -/

theorem relationshipId?_eq_none {edit : Edit} {id : String} (toModel : edit.modelId? = some id) :
    edit.relationshipId? = none := by
  cases edit with
  | updateRelationship _ _ _ => cases toModel
  | deleteRelationship _ => cases toModel
  | _ => rfl

namespace IsApartFrom

variable {first second : Edit} {id other : String}

theorem model_ne (apart : first.IsApartFrom second) (toModel : first.modelId? = some id)
    (toOther : second.modelId? = some other) : id ≠ other := by
  cases apart with
  | models one two distinct =>
    cases one.symm.trans toModel
    cases two.symm.trans toOther
    exact distinct
  | relationships one two distinct => cases (relationshipId?_eq_none toModel).symm.trans one
  | modelAndRelationship one keeps two deletes =>
    cases (relationshipId?_eq_none toOther).symm.trans two
  | relationshipAndModel one deletes two keeps =>
    cases (relationshipId?_eq_none toModel).symm.trans one

theorem relationship_ne (apart : first.IsApartFrom second)
    (toRelationship : first.relationshipId? = some id)
    (toOther : second.relationshipId? = some other) : id ≠ other := by
  cases apart with
  | models one two distinct => cases (relationshipId?_eq_none one).symm.trans toRelationship
  | relationships one two distinct =>
    cases one.symm.trans toRelationship
    cases two.symm.trans toOther
    exact distinct
  | modelAndRelationship one keeps two deletes =>
    cases (relationshipId?_eq_none one).symm.trans toRelationship
  | relationshipAndModel one deletes two keeps =>
    cases (relationshipId?_eq_none two).symm.trans toOther

/-- Of an edit of a model and one of a relationship, only the latter deletes. -/
theorem deletes_of_model (apart : first.IsApartFrom second) (toModel : first.modelId? = some id)
    (toOther : second.relationshipId? = some other) :
    first.deletesEntity = false ∧ second.deletesEntity = true := by
  cases apart with
  | models one two distinct => cases (relationshipId?_eq_none two).symm.trans toOther
  | relationships one two distinct => cases (relationshipId?_eq_none toModel).symm.trans one
  | modelAndRelationship one keeps two deletes => exact ⟨keeps, deletes⟩
  | relationshipAndModel one deletes two keeps =>
    cases (relationshipId?_eq_none toModel).symm.trans one

end IsApartFrom

end Edit

namespace Alteration.IsOf

open Edit

variable {first second : Edit}

/-- An edit depends on nothing that the alteration of an edit apart from it reaches. -/
theorem seesSame {alteration : Alteration} (made : alteration.IsOf second)
    (apart : first.IsApartFrom second) (schema : Schema) :
    first.SeesSame schema (alteration.on schema) := by
  cases made with
  | keep => exact .refl first schema
  | replaceModel toOther keeps =>
    refine ⟨fun id toModel => ?_, fun _ _ => rfl, fun addressed kept => ?_⟩
    · rw [on, Schema.model?_replaceModel, if_neg (apart.model_ne toModel toOther)]
    · obtain ⟨id, toRelationship⟩ := Option.isSome_iff_exists.mp addressed
      obtain ⟨-, deletes⟩ := apart.symm.deletes_of_model toOther toRelationship
      exact absurd (kept.symm.trans deletes) Bool.false_ne_true
  | removeModel toOther deletes =>
    -- A relationship may go with the model, but then the first edit is not made to one.
    have elsewhere {id : String} : first.relationshipId? ≠ some id := by
      intro toRelationship
      obtain ⟨keeps, -⟩ := apart.symm.deletes_of_model toOther toRelationship
      exact absurd (keeps.symm.trans deletes) Bool.false_ne_true
    refine ⟨fun id toModel => ?_, fun id toRelationship => absurd toRelationship elsewhere,
      fun addressed _ => ?_⟩
    · rw [on, Schema.model?_removeModel, if_neg (apart.model_ne toModel toOther)]
    · obtain ⟨id, toRelationship⟩ := Option.isSome_iff_exists.mp addressed
      exact absurd toRelationship elsewhere
  | replaceRelationship toOther keeps =>
    refine ⟨fun _ _ => rfl, fun id toRelationship => ?_, fun _ _ => rfl⟩
    rw [on, Schema.relationship?_replaceRelationship,
      if_neg (apart.relationship_ne toRelationship toOther)]
  | removeRelationship toOther deletes =>
    refine ⟨fun _ _ => rfl, fun id toRelationship => ?_, fun _ _ => rfl⟩
    rw [on, Schema.relationship?_removeRelationship,
      if_neg (apart.relationship_ne toRelationship toOther)]

end Alteration.IsOf

/-! ## Alterations in both orders -/

section Entries

variable {α : Type} {idOf : α → String}

theorem map_replace_comm {one two : α} (distinct : idOf one ≠ idOf two) (entries : List α) :
    (entries.map fun old => if idOf old = idOf one then one else old).map
        (fun old => if idOf old = idOf two then two else old) =
      (entries.map fun old => if idOf old = idOf two then two else old).map
        fun old => if idOf old = idOf one then one else old := by
  rw [List.map_map, List.map_map]
  refine List.map_congr_left fun old _ => ?_
  by_cases isOne : idOf old = idOf one
  · simp [isOne, distinct]
  · by_cases isTwo : idOf old = idOf two
    · simp [isTwo, distinct.symm]
    · simp [isOne, isTwo]

theorem filter_map_replace_comm (entries : List α) (edited : α) (gone : String) :
    (entries.map fun old => if idOf old = idOf edited then edited else old).filter
        (idOf · != gone) =
      (entries.filter (idOf · != gone)).map
        fun old => if idOf old = idOf edited then edited else old := by
  rw [List.filter_map]
  congr 1
  refine List.filter_congr fun old _ => ?_
  by_cases replaced : idOf old = idOf edited
  · simp [replaced]
  · simp [replaced]

end Entries

namespace Schema

theorem replaceModel_comm (schema : Schema) {one two : Model} (distinct : one.id ≠ two.id) :
    (schema.replaceModel one).replaceModel two = (schema.replaceModel two).replaceModel one := by
  rw [replaceModel, replaceModel, replaceModel, replaceModel, map_replace_comm distinct]

theorem removeModel_replaceModel (schema : Schema) (edited : Model) (gone : String) :
    (schema.replaceModel edited).removeModel gone =
      (schema.removeModel gone).replaceModel edited := by
  rw [replaceModel, removeModel, removeModel, replaceModel, filter_map_replace_comm]

/-- A relationship between the two models is gone in both orders. -/
theorem removeModel_comm (schema : Schema) (one two : String) :
    (schema.removeModel one).removeModel two = (schema.removeModel two).removeModel one := by
  rw [removeModel, removeModel, removeModel, removeModel, List.filter_comm,
    List.filter_comm _ _ schema.relationships]

theorem replaceRelationship_comm (schema : Schema) {one two : Relationship}
    (distinct : one.id ≠ two.id) :
    (schema.replaceRelationship one).replaceRelationship two =
      (schema.replaceRelationship two).replaceRelationship one := by
  rw [replaceRelationship, replaceRelationship, replaceRelationship, replaceRelationship,
    map_replace_comm distinct]

theorem removeRelationship_replaceRelationship (schema : Schema) (edited : Relationship)
    (gone : String) :
    (schema.replaceRelationship edited).removeRelationship gone =
      (schema.removeRelationship gone).replaceRelationship edited := by
  rw [replaceRelationship, removeRelationship, removeRelationship, replaceRelationship,
    filter_map_replace_comm]

theorem removeRelationship_comm (schema : Schema) (one two : String) :
    (schema.removeRelationship one).removeRelationship two =
      (schema.removeRelationship two).removeRelationship one := by
  rw [removeRelationship, removeRelationship, removeRelationship, removeRelationship,
    List.filter_comm]

end Schema

namespace Alteration.IsOf

open Edit

variable {first second : Edit} {one two : Alteration}

/-- The alterations of edits that are apart come to the same in both orders. -/
theorem on_comm (ofFirst : one.IsOf first) (ofSecond : two.IsOf second)
    (apart : first.IsApartFrom second) (schema : Schema) :
    two.on (one.on schema) = one.on (two.on schema) := by
  cases ofFirst with
  | keep => rfl
  | replaceModel toFirst keeps =>
    cases ofSecond with
    | keep => rfl
    | replaceModel toSecond _ => exact schema.replaceModel_comm (apart.model_ne toFirst toSecond)
    | removeModel _ _ => exact schema.removeModel_replaceModel _ _
    | replaceRelationship _ _ => rfl
    | removeRelationship _ _ => rfl
  | removeModel toFirst deletes =>
    cases ofSecond with
    | keep => rfl
    | replaceModel _ _ => exact (schema.removeModel_replaceModel _ _).symm
    | removeModel _ _ => exact schema.removeModel_comm _ _
    | replaceRelationship toSecond _ =>
      cases deletes.symm.trans (apart.deletes_of_model toFirst toSecond).1
    | removeRelationship toSecond _ =>
      cases deletes.symm.trans (apart.deletes_of_model toFirst toSecond).1
  | replaceRelationship toFirst keeps =>
    cases ofSecond with
    | keep => rfl
    | replaceModel _ _ => rfl
    | removeModel toSecond deletes =>
      cases deletes.symm.trans (apart.symm.deletes_of_model toSecond toFirst).1
    | replaceRelationship toSecond _ =>
      exact schema.replaceRelationship_comm (apart.relationship_ne toFirst toSecond)
    | removeRelationship _ _ => exact schema.removeRelationship_replaceRelationship _ _
  | removeRelationship toFirst _ =>
    cases ofSecond with
    | keep => rfl
    | replaceModel _ _ => rfl
    | removeModel toSecond deletes =>
      cases deletes.symm.trans (apart.symm.deletes_of_model toSecond toFirst).1
    | replaceRelationship _ _ =>
      exact (schema.removeRelationship_replaceRelationship _ _).symm
    | removeRelationship _ _ => exact schema.removeRelationship_comm _ _

end Alteration.IsOf

/-! ## Edits in any order -/

namespace Edit

variable {first second : Edit}

theorem adds_eq_false_of_modelId? {edit : Edit} {id : String}
    (toModel : edit.modelId? = some id) : edit.adds = false := by
  cases edit with
  | addModel _ _ => cases toModel
  | addRelationship _ _ => cases toModel
  | _ => rfl

theorem adds_eq_false_of_relationshipId? {edit : Edit} {id : String}
    (toRelationship : edit.relationshipId? = some id) : edit.adds = false := by
  cases edit with
  | addModel _ _ => cases toRelationship
  | addRelationship _ _ => cases toRelationship
  | _ => rfl

theorem IsApartFrom.adds_eq_false (apart : first.IsApartFrom second) : first.adds = false := by
  cases apart with
  | models toModel => exact adds_eq_false_of_modelId? toModel
  | relationships toRelationship => exact adds_eq_false_of_relationshipId? toRelationship
  | modelAndRelationship toModel => exact adds_eq_false_of_modelId? toModel
  | relationshipAndModel toRelationship => exact adds_eq_false_of_relationshipId? toRelationship

/-- Schemas that have in common what an edit depends on are altered alike, or both kept, and the
edit fails with the same error or not at all. -/
theorem SeesSame.exists_alteration {edit : Edit} {schema next : Schema}
    (same : edit.SeesSame schema next) (addressed : edit.adds = false) (newId : String) :
    edit.error? next newId = edit.error? schema newId ∧
      ∃ alteration : Alteration, alteration.IsOf edit ∧
        edit.applyOrKeep schema newId = alteration.on schema ∧
        edit.applyOrKeep next newId = alteration.on next := by
  have alike := same.endsAlike addressed newId
  unfold error? applyOrKeep
  generalize edit.apply schema newId = result at alike
  generalize edit.apply next newId = other at alike
  cases alike with
  | error problem => exact ⟨rfl, .keep, .keep, rfl, rfl⟩
  | ok made => exact ⟨rfl, _, made, rfl, rfl⟩

/-- An edit does the same after an edit that is apart from it as before. -/
theorem IsApartFrom.exists_alteration (apart : first.IsApartFrom second) (schema : Schema)
    (firstId secondId : String) :
    first.error? (second.applyOrKeep schema secondId) firstId = first.error? schema firstId ∧
      ∃ alteration : Alteration, alteration.IsOf first ∧
        first.applyOrKeep schema firstId = alteration.on schema ∧
        first.applyOrKeep (second.applyOrKeep schema secondId) firstId =
          alteration.on (second.applyOrKeep schema secondId) := by
  obtain ⟨-, alteration, made, altered, -⟩ :=
    (SeesSame.refl second schema).exists_alteration apart.symm.adds_eq_false secondId
  rw [altered]
  exact (made.seesSame apart schema).exists_alteration apart.adds_eq_false firstId

theorem IsApartFrom.applyOrKeep_comm (apart : first.IsApartFrom second) (schema : Schema)
    (firstId secondId : String) :
    second.applyOrKeep (first.applyOrKeep schema firstId) secondId =
      first.applyOrKeep (second.applyOrKeep schema secondId) firstId := by
  obtain ⟨-, one, ofFirst, firstAlone, firstLater⟩ :=
    apart.exists_alteration schema firstId secondId
  obtain ⟨-, two, ofSecond, secondAlone, secondLater⟩ :=
    apart.symm.exists_alteration schema secondId firstId
  rw [secondLater, firstLater, firstAlone, secondAlone]
  exact ofFirst.on_comm ofSecond apart schema

/-- Edits of different models, edits of different relationships, and a change of a model beside the
deletion of a relationship come to the same schema in both orders, and each of them succeeds or
fails with the same error in both; one that fails leaves the schema as it was. -/
theorem independent_of_isApartFrom {first second : Edit} (apart : first.IsApartFrom second)
    (schema : Schema) (firstId secondId : String) :
    second.applyOrKeep (first.applyOrKeep schema firstId) secondId =
        first.applyOrKeep (second.applyOrKeep schema secondId) firstId ∧
      first.error? (second.applyOrKeep schema secondId) firstId = first.error? schema firstId ∧
      second.error? (first.applyOrKeep schema firstId) secondId =
        second.error? schema secondId ∧
      ∀ edit ∈ [first, second], ∀ (current : Schema) (newId : String),
        edit.error? current newId ≠ none → edit.applyOrKeep current newId = current :=
  ⟨apart.applyOrKeep_comm schema firstId secondId,
    (apart.exists_alteration schema firstId secondId).1,
    (apart.symm.exists_alteration schema secondId firstId).1,
    fun _ _ _ _ fails => applyOrKeep_of_error? fails⟩

/-- Users and posts can be deleted in both orders; their relationship goes with the first that is
deleted. -/
theorem independent_deleteModel_postsOfUsers :
    (Schema.empty.after Schema.postsOfUsers).relationships.length = 1 ∧
      ((deleteModel "u").applyOrKeep (Schema.empty.after Schema.postsOfUsers) "").relationships =
        [] ∧
      (deleteModel "p").applyOrKeep
          ((deleteModel "u").applyOrKeep (Schema.empty.after Schema.postsOfUsers) "") "" =
        (deleteModel "u").applyOrKeep
          ((deleteModel "p").applyOrKeep (Schema.empty.after Schema.postsOfUsers) "") "" ∧
      (deleteModel "u").error?
          ((deleteModel "p").applyOrKeep (Schema.empty.after Schema.postsOfUsers) "") "" = none ∧
      (deleteModel "p").error?
          ((deleteModel "u").applyOrKeep (Schema.empty.after Schema.postsOfUsers) "") "" =
        none := by
  have apart : (deleteModel "u").IsApartFrom (deleteModel "p") := .models rfl rfl (by decide)
  obtain ⟨sameSchema, sameError, sameOther, -⟩ :=
    independent_of_isApartFrom apart (Schema.empty.after Schema.postsOfUsers) "" ""
  refine ⟨by decide, by decide, sameSchema, ?_, ?_⟩
  · rw [sameError]
    decide
  · rw [sameOther]
    decide

end Edit

/-- Steps that are apart from each other lead to the same schema in any order. -/
theorem Schema.after_perm {steps others : List Edit.Step} (permuted : steps.Perm others)
    (apart : steps.Pairwise fun first second => first.edit.IsApartFrom second.edit)
    (schema : Schema) : schema.after steps = schema.after others := by
  have commutes : ∀ ⦃first⦄, first ∈ steps → ∀ ⦃second⦄, second ∈ steps → ∀ current : Schema,
      second.edit.applyOrKeep (first.edit.applyOrKeep current first.newId) second.newId =
        first.edit.applyOrKeep (second.edit.applyOrKeep current second.newId) first.newId := by
    refine List.Pairwise.forall_of_forall_of_flip (fun _ _ _ => rfl) ?_ ?_
    · exact apart.imp fun distinct current => distinct.applyOrKeep_comm current _ _
    · exact apart.imp fun distinct current => (distinct.applyOrKeep_comm current _ _).symm
  exact permuted.foldl_eq' (fun first inFirst second inSecond current =>
    commutes inFirst inSecond current) schema

end SchemaDesk
