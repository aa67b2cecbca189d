import Mathlib.Data.List.Nodup
import SchemaDesk.Edit.Basic

/-!
# Finding entities after a change

How the first and the last model with an id, and the first relationship, change
when one is added, replaced or removed. Where ids are distinct, the first and
the last agree.
-/

namespace SchemaDesk

/-- The first entry with an id, after all entries with the id of another one were replaced by it. -/
theorem find?_map_replace {α : Type} (idOf : α → String) (entries : List α) (edited : α)
    (id : String) :
    (entries.map fun old => if idOf old = idOf edited then edited else old).find? (idOf · == id) =
      if id = idOf edited then (entries.find? (idOf · == id)).map fun _ => edited
      else entries.find? (idOf · == id) := by
  induction entries with
  | nil => simp
  | cons entry entries ih =>
    by_cases here : idOf entry = id
    · subst here
      by_cases replaced : idOf entry = idOf edited
      · simp [replaced]
      · simp [replaced]
    · have apart : (idOf entry == id) = false := by simpa using here
      have replacement :
          (idOf (if idOf entry = idOf edited then edited else entry) == id) = false := by
        by_cases replaced : idOf entry = idOf edited
        · simpa [replaced] using apart
        · simpa [replaced] using apart
      rw [List.map_cons, List.find?_cons, replacement, List.find?_cons, apart]
      exact ih

/-- What an entry shares with all those in whose places it is put stays as it was. -/
theorem map_map_replace {α β : Type} {idOf : α → String} {part : α → β} {entries : List α}
    {edited : α} (shared : ∀ old ∈ entries, idOf old = idOf edited → part edited = part old) :
    (entries.map fun old => if idOf old = idOf edited then edited else old).map part =
      entries.map part := by
  rw [List.map_map]
  refine List.map_congr_left fun old inside => ?_
  by_cases replaced : idOf old = idOf edited
  · simp [replaced, shared old inside replaced]
  · simp [replaced]

/-- The first entry with an id, after the entries with some id were removed. -/
theorem find?_filter_ne {α : Type} (idOf : α → String) (entries : List α) (gone id : String) :
    (entries.filter fun entry => idOf entry != gone).find? (idOf · == id) =
      if id = gone then none else entries.find? (idOf · == id) := by
  induction entries with
  | nil => simp
  | cons entry entries ih =>
    by_cases removed : idOf entry = gone
    · by_cases wanted : id = gone
      · simp [wanted]
      · have apart : (gone == id) = false := by simpa using Ne.symm wanted
        simp [removed, ih, wanted, apart]
    · by_cases here : idOf entry = id
      · subst here
        simp [removed]
      · have apart : (idOf entry == id) = false := by simpa using here
        simp [removed, apart, ih]

/-- The id denotes the model: it is the last one that has the id. -/
def ResolvesTo (models : List Model) (id : String) (model : Model) : Prop :=
  ∃ before after, models = before ++ model :: after ∧ model.id = id ∧
    ∀ later ∈ after, later.id ≠ id

theorem resolve?_eq_some_iff {models : List Model} {id : String} {model : Model} :
    resolve? models id = some model ↔ ResolvesTo models id model := by
  simp only [resolve?, List.find?_eq_some_iff_append, beq_iff_eq, Bool.not_eq_true',
    beq_eq_false_iff_ne]
  constructor
  · rintro ⟨named, after, before, listed, others⟩
    refine ⟨before.reverse, after.reverse, ?_, named, by simpa using others⟩
    rw [← models.reverse_reverse, listed]
    simp
  · rintro ⟨before, after, rfl, named, others⟩
    exact ⟨named, after.reverse, before.reverse, by simp, by simpa using others⟩

theorem mem_of_resolve?_eq_some {models : List Model} {id : String} {model : Model}
    (found : resolve? models id = some model) : model ∈ models ∧ model.id = id :=
  ⟨List.mem_reverse.mp (List.mem_of_find?_eq_some found), by simpa using List.find?_some found⟩

/-- An id that a model has denotes a model. -/
theorem exists_resolve?_of_mem {models : List Model} {id : String}
    (listed : id ∈ models.map (·.id)) : ∃ model, resolve? models id = some model :=
  Option.isSome_iff_exists.mp ((resolve?_isSome_iff models id).mpr listed)

/-- Where ids are distinct, the id of a model denotes it. -/
theorem resolve?_eq_some_of_mem {models : List Model} (distinct : (models.map (·.id)).Nodup)
    {model : Model} (inside : model ∈ models) : resolve? models model.id = some model := by
  obtain ⟨before, after, rfl⟩ := List.append_of_mem inside
  rw [List.map_append, List.map_cons, List.nodup_append, List.nodup_cons] at distinct
  refine resolve?_eq_some_iff.mpr ⟨before, after, rfl, rfl, fun later listed same => ?_⟩
  exact distinct.2.1.1 (same ▸ List.mem_map_of_mem listed)

/-- A model with a new id is found under it, and no other id is affected. -/
theorem resolve?_append_singleton (models : List Model) (added : Model) (id : String) :
    resolve? (models ++ [added]) id =
      if id = added.id then some added else resolve? models id := by
  by_cases wanted : id = added.id
  · simp [resolve?, wanted]
  · simp [resolve?, wanted, Ne.symm wanted]

/-- Where ids are distinct, the first model with an id is the last one. -/
theorem resolve?_eq_find?_of_nodup {models : List Model} (distinct : (models.map (·.id)).Nodup)
    (id : String) : resolve? models id = models.find? (·.id == id) := by
  induction models with
  | nil => rfl
  | cons model models ih =>
    rw [List.map_cons, List.nodup_cons] at distinct
    rw [List.find?_cons, resolve?, List.reverse_cons, List.find?_append, ← resolve?,
      ih distinct.2]
    by_cases here : model.id = id
    · -- No later model has the id, so looking from the end comes to this one too.
      have absent : models.find? (·.id == id) = none := by
        simpa [here] using distinct.1
      simp [here, absent]
    · have apart : (model.id == id) = false := by simpa using here
      simp [apart]

namespace Schema

theorem resolve?_replaceModel (schema : Schema) (edited : Model) (id : String) :
    resolve? (schema.replaceModel edited).models id =
      if id = edited.id then (resolve? schema.models id).map fun _ => edited
      else resolve? schema.models id := by
  simp only [resolve?, replaceModel, ← List.map_reverse]
  exact find?_map_replace Model.id schema.models.reverse edited id

theorem model?_replaceModel (schema : Schema) (edited : Model) (id : String) :
    (schema.replaceModel edited).model? id =
      if id = edited.id then (schema.model? id).map fun _ => edited else schema.model? id :=
  find?_map_replace Model.id schema.models edited id

/-- A model that replaces the one with its id is found in its place. -/
theorem model?_replaceModel_self {schema : Schema} {id : String} {old new : Model}
    (found : schema.model? id = some old) (same : new.id = id) :
    (schema.replaceModel new).model? id = some new := by
  rw [model?_replaceModel, if_pos same.symm, found]
  rfl

theorem model?_removeModel (schema : Schema) (gone id : String) :
    (schema.removeModel gone).model? id = if id = gone then none else schema.model? id :=
  find?_filter_ne Model.id schema.models gone id

theorem relationship?_replaceRelationship (schema : Schema) (edited : Relationship) (id : String) :
    (schema.replaceRelationship edited).relationship? id =
      if id = edited.id then (schema.relationship? id).map fun _ => edited
      else schema.relationship? id :=
  find?_map_replace Relationship.id schema.relationships edited id

/-- A relationship that replaces the one with its id is found in its place. -/
theorem relationship?_replaceRelationship_self {schema : Schema} {id : String}
    {old new : Relationship} (found : schema.relationship? id = some old) (same : new.id = id) :
    (schema.replaceRelationship new).relationship? id = some new := by
  rw [relationship?_replaceRelationship, if_pos same.symm, found]
  rfl

theorem relationship?_removeRelationship (schema : Schema) (gone id : String) :
    (schema.removeRelationship gone).relationship? id =
      if id = gone then none else schema.relationship? id :=
  find?_filter_ne Relationship.id schema.relationships gone id

theorem resolve?_removeModel (schema : Schema) (gone id : String) :
    resolve? (schema.removeModel gone).models id =
      if id = gone then none else resolve? schema.models id := by
  simp only [resolve?, removeModel, ← List.filter_reverse]
  exact find?_filter_ne Model.id schema.models.reverse gone id

/-- Removing a model takes its id away and no other. -/
theorem mem_map_id_removeModel {schema : Schema} {gone id : String} :
    id ∈ (schema.removeModel gone).models.map (·.id) ↔
      id ∈ schema.models.map (·.id) ∧ id ≠ gone := by
  simp only [removeModel, List.mem_map, List.mem_filter, bne_iff_ne]
  constructor
  · rintro ⟨model, ⟨inside, kept⟩, rfl⟩
    exact ⟨⟨model, inside, rfl⟩, kept⟩
  · rintro ⟨⟨model, inside, rfl⟩, kept⟩
    exact ⟨model, ⟨inside, kept⟩, rfl⟩

/-- Replacing a model changes no id. -/
theorem map_id_replaceModel (schema : Schema) (edited : Model) :
    (schema.replaceModel edited).models.map (·.id) = schema.models.map (·.id) :=
  map_map_replace fun _ _ replaced => replaced.symm

end Schema

end SchemaDesk
