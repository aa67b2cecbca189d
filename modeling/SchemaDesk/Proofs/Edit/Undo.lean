import SchemaDesk.Proofs.Edit.Error
import SchemaDesk.Proofs.Edit.Update

/-!
# Undoing edits

An edit of the fields of a model is undone by another one. A field that was
added is deleted where it stands, one that was moved is moved back, and one that
was replaced is put in its place again. What was added to a schema is deleted by
its id, as long as nothing else has the id or mentions it. In all of this,
positions may be given from the start or from the end.
-/

namespace SchemaDesk

/-- A position up to the greatest one that fits a machine word fits too. -/
theorem Number.isWord_of_le {n limit : Int} (fits : isWord limit = true) (start : 0 ≤ n)
    (below : n ≤ limit) : isWord n = true := by
  rw [isWord_iff] at fits ⊢
  omega

/-- Every position of a model fits a machine word if the number of fields does. -/
theorem Model.isWord_of_hasFieldAt (model : Model)
    (countable : Number.isWord model.fields.length = true) {position : Int}
    (here : model.HasFieldAt position) : Number.isWord position = true := by
  unfold HasFieldAt at here
  rw [Number.isWord_iff] at countable ⊢
  omega

/-- The edit makes the one schema into the other, whatever id there is for an added entity. -/
def Edit.LeadsTo (edit : Edit) (schema next : Schema) : Prop :=
  ∀ newId, edit.apply schema newId = .ok next

namespace Schema

variable {schema : Schema}

/-- Where ids are distinct, a model that gets its fields back makes the schema what it was. -/
theorem HasDistinctIds.replaceModel_back (distinct : schema.HasDistinctIds) {model : Model}
    (inside : model ∈ schema.models) (fields : List Field) :
    (schema.replaceModel { model with fields }).replaceModel model = schema := by
  have replacedTwice :
      (schema.replaceModel { model with fields }).replaceModel model =
        schema.replaceModel model := by
    have same : model.id = ({ model with fields } : Model).id := rfl
    simp only [replaceModel]
    rw [map_replace_replace Model.id same]
  rw [replacedTwice, distinct.replaceModel_self inside]

/-- A model that got other fields is found with them. -/
theorem HasDistinctIds.model?_replaceModel (distinct : schema.HasDistinctIds) {model : Model}
    (inside : model ∈ schema.models) (fields : List Field) :
    (schema.replaceModel { model with fields }).model? model.id = some { model with fields } :=
  model?_replaceModel_self (distinct.model?_of_mem inside) rfl

/-- What was added under a new id is gone after its removal, and nothing else is. -/
theorem removeModel_appendModel (candidate : Model) {newId : String}
    (fresh : newId ∉ schema.models.map (·.id))
    (unmentioned : ∀ relationship ∈ schema.relationships,
      relationship.source ≠ newId ∧ relationship.target ≠ newId) :
    (schema.appendModel { candidate with id := newId }).removeModel newId = schema := by
  have models : schema.models.filter (fun model => model.id != newId) = schema.models := by
    rw [List.filter_eq_self]
    intro model inside
    have apart : model.id ≠ newId := fun same => fresh (same ▸ List.mem_map_of_mem inside)
    simpa using apart
  have relationships : schema.relationships.filter (fun relationship =>
      !relationship.involves newId) = schema.relationships := by
    rw [List.filter_eq_self]
    intro relationship inside
    simpa [Relationship.involves] using unmentioned relationship inside
  simp [removeModel, appendModel, models, relationships]

theorem removeRelationship_appendRelationship (candidate : Relationship) {newId : String}
    (fresh : newId ∉ schema.relationships.map (·.id)) :
    (schema.appendRelationship { candidate with id := newId }).removeRelationship newId =
      schema := by
  have relationships : schema.relationships.filter (fun relationship =>
      relationship.id != newId) = schema.relationships := by
    rw [List.filter_eq_self]
    intro relationship inside
    have apart : relationship.id ≠ newId := fun same => fresh (same ▸ List.mem_map_of_mem inside)
    simpa using apart
  simp [removeRelationship, appendRelationship, relationships]

/-- What edits do to the fields of a model, and how they are undone. Positions are counted from the
start or, if they are negative, from the end. -/
structure UndoesFieldEdits (schema : Schema) (model : Model) : Prop where
  added : ∀ {field : Field} {position? : Option Int} {validate : Bool} {newId : String}
    {next : Schema}, (Edit.addField model.id field position? validate).apply schema newId =
      .ok next →
    ∃ fields, next.model? model.id = some { model with fields } ∧
      Position.IsInsertion model.fields (Position.landing model.fields.length position?) field
        fields ∧
      (Edit.deleteField model.id (Position.landing model.fields.length position?)).LeadsTo next
        schema
  moved : ∀ {source target : Int}, model.HasFieldAt source → Number.isWord target = true →
    ∃ next fields others field, (Edit.moveField model.id source target).LeadsTo schema next ∧
      next.model? model.id = some { model with fields } ∧ fields.Perm model.fields ∧
      Position.IsInsertion others (source % model.fields.length) field model.fields ∧
      Position.IsInsertion others (Position.landing (model.fields.length - 1) (some target)) field
        fields ∧
      (Edit.moveField model.id (Position.landing (model.fields.length - 1) (some target))
        (source % model.fields.length)).LeadsTo next schema
  replaced : ∀ {position : Int} (field : Field), model.HasFieldAt position →
    ∃ next old, (Edit.updateField model.id position field false).LeadsTo schema next ∧
      model.fields[(position % model.fields.length).toNat]? = some old ∧
      (Edit.updateField model.id position old false).LeadsTo next schema

/-- What is added under an id that is new is deleted by the id. -/
structure UndoesAdditions (schema : Schema) : Prop where
  model : ∀ {candidate : Model} {validate : Bool} {newId : String} {next : Schema},
    newId ∉ schema.models.map (·.id) →
    (∀ relationship ∈ schema.relationships,
      relationship.source ≠ newId ∧ relationship.target ≠ newId) →
    (Edit.addModel candidate validate).apply schema newId = .ok next →
    (Edit.deleteModel newId).LeadsTo next schema
  relationship : ∀ {candidate : Relationship} {validate : Bool} {newId : String} {next : Schema},
    newId ∉ schema.relationships.map (·.id) →
    (Edit.addRelationship candidate validate).apply schema newId = .ok next →
    (Edit.deleteRelationship newId).LeadsTo next schema

end Schema

namespace Edit

variable {schema : Schema} {model : Model}

/-- A field edit that gives a changed model its fields back leads to the schema before. -/
theorem leadsTo_back (distinct : schema.HasDistinctIds) (inside : model ∈ schema.models)
    {fields : List Field} {edit : Edit}
    (proposes : ∀ newId, edit.Proposes (schema.replaceModel { model with fields }) newId .open
      ((schema.replaceModel { model with fields }).replaceModel model)) :
    edit.LeadsTo (schema.replaceModel { model with fields }) schema := by
  intro newId
  rw [(proposes newId).apply_eq, distinct.replaceModel_back inside]

/-- A field that was inserted among others is deleted at its position. -/
theorem deleteField_leadsTo (distinct : schema.HasDistinctIds) (inside : model ∈ schema.models)
    (countable : Number.isWord model.fields.length = true) {position : Int} {field : Field}
    {fields : List Field}
    (inserted : Position.IsInsertion model.fields position field fields) :
    (deleteField model.id position).LeadsTo (schema.replaceModel { model with fields })
      schema := by
  refine leadsTo_back distinct inside fun newId => ?_
  have found := distinct.model?_replaceModel inside fields
  have fit := Number.isWord_of_le countable inserted.bounds.1 inserted.bounds.2
  have proposes : Proposes _ newId _ _ _ := .deleteField found fit inserted.remove?_eq
  exact proposes

/-- A field that stands among others is moved to where it came from. -/
theorem moveField_leadsTo (distinct : schema.HasDistinctIds) (inside : model ∈ schema.models)
    (countable : Number.isWord model.fields.length = true) {source target : Int} {field : Field}
    {others fields : List Field} (was : Position.IsInsertion others source field model.fields)
    (stands : Position.IsInsertion others target field fields) :
    (moveField model.id target source).LeadsTo (schema.replaceModel { model with fields })
      schema := by
  refine leadsTo_back distinct inside fun newId => ?_
  have found := distinct.model?_replaceModel inside fields
  have fewer : others.length ≤ model.fields.length := by
    rw [← was.others]
    exact List.length_eraseIdx_le _ _
  have fitTarget : Number.isWord target = true :=
    Number.isWord_of_le countable stands.bounds.1 (by have := stands.bounds.2; omega)
  have fitSource : Number.isWord source = true :=
    Number.isWord_of_le countable was.bounds.1 (by have := was.bounds.2; omega)
  have moved : Position.move? fields target source = some model.fields := by
    rw [stands.move?_eq, was.insert_eq]
  have proposes : Proposes _ newId _ _ _ := .moveField found ⟨fitTarget, fitSource⟩ moved
  exact proposes

/-- A field that was put in the place of another one is replaced by it. -/
theorem updateField_leadsTo (distinct : schema.HasDistinctIds) (inside : model ∈ schema.models)
    {position : Int} (fit : Number.isWord position = true) {place : Nat}
    (placed : Position.place? model.fields.length position = some place) {old : Field}
    (stood : model.fields[place]? = some old) (field : Field) :
    (updateField model.id position old false).LeadsTo
      (schema.replaceModel { model with fields := model.fields.set place field }) schema := by
  refine leadsTo_back distinct inside fun newId => ?_
  have found := distinct.model?_replaceModel inside (model.fields.set place field)
  have replaced : Position.replace? (model.fields.set place field) position old =
      some model.fields := by
    obtain ⟨bound, rfl⟩ := List.getElem?_eq_some_iff.mp stood
    rw [Position.replace?, List.length_set, placed, Option.map_some, List.set_set,
      List.set_getElem_self]
  have proposes : Proposes _ newId _ _ _ := .updateField false found fit replaced
  exact proposes

end Edit

namespace Schema

variable {schema : Schema} {model : Model}

theorem HasDistinctIds.undoesFieldEdits (distinct : schema.HasDistinctIds)
    (inside : model ∈ schema.models) (countable : Number.isWord model.fields.length = true) :
    schema.UndoesFieldEdits model where
  added {field position? validate newId next} made := by
    obtain ⟨gate, proposed, -⟩ := Edit.apply_eq_ok_iff.mp made
    cases Edit.propose_eq_ok_iff.mp proposed with
    | addField _ _ found fit =>
      cases (distinct.model?_of_mem inside).symm.trans found
      have inserted := isInsertion_insertField model.fields position? field
      exact ⟨_, distinct.model?_replaceModel inside _, inserted,
        Edit.deleteField_leadsTo distinct inside countable inserted⟩
  moved {source target} here fit := by
    obtain ⟨others, field, length, was, moved⟩ := Position.exists_isInsertion_of_inside here
    have stands := Position.isInsertion_insert others target field
    rw [length] at stands
    have found := distinct.model?_of_mem inside
    have fits := model.isWord_of_hasFieldAt countable here
    refine ⟨_, _, others, field, fun newId => ?_, distinct.model?_replaceModel inside _,
      Position.move?_perm (moved target), was, stands,
      Edit.moveField_leadsTo distinct inside countable was stands⟩
    exact (Edit.Proposes.moveField found ⟨fits, fit⟩ (moved target)).apply_eq
  replaced {position} field here := by
    have place := Position.place?_eq_emod here
    have bound := Position.place?_lt place
    have old := List.getElem?_eq_getElem bound
    have fit := model.isWord_of_hasFieldAt countable here
    have replaced : Position.replace? model.fields position field =
        some (model.fields.set (position % model.fields.length).toNat field) := by
      rw [Position.replace?, place, Option.map_some]
    have found := distinct.model?_of_mem inside
    refine ⟨_, _, fun newId => ?_, old,
      Edit.updateField_leadsTo distinct inside fit place old field⟩
    exact (Edit.Proposes.updateField false found fit replaced).apply_eq

theorem undoesAdditions (schema : Schema) : schema.UndoesAdditions where
  model {candidate validate newId next} fresh unmentioned made otherId := by
    obtain ⟨gate, proposed, -⟩ := Edit.apply_eq_ok_iff.mp made
    cases Edit.propose_eq_ok_iff.mp proposed
    have present : ((schema.appendModel { candidate with id := newId }).model? newId).isSome := by
      simp [model?, appendModel]
    obtain ⟨old, found⟩ := Option.isSome_iff_exists.mp present
    rw [(Edit.Proposes.deleteModel found).apply_eq,
      removeModel_appendModel candidate fresh unmentioned]
  relationship {candidate validate newId next} fresh made otherId := by
    obtain ⟨gate, proposed, -⟩ := Edit.apply_eq_ok_iff.mp made
    cases Edit.propose_eq_ok_iff.mp proposed
    have present : ((schema.appendRelationship { candidate with id := newId }).relationship?
        newId).isSome := by
      simp [relationship?, appendRelationship]
    obtain ⟨old, found⟩ := Option.isSome_iff_exists.mp present
    rw [(Edit.Proposes.deleteRelationship found).apply_eq,
      removeRelationship_appendRelationship candidate fresh]

/-- Where ids are distinct, every edit of the fields of a model has its inverse, as long as machine
words count the fields; and so has everything that is added under a new id that is not mentioned. -/
theorem undoesEdits_of_hasDistinctIds (distinct : schema.HasDistinctIds) :
    (∀ model ∈ schema.models, Number.isWord model.fields.length = true →
        schema.UndoesFieldEdits model) ∧
      schema.UndoesAdditions :=
  ⟨fun _ inside countable => distinct.undoesFieldEdits inside countable, schema.undoesAdditions⟩

/-- A shelf with three fields. -/
def shelf : Model where
  id := "s"
  name := "Shelf"
  fields :=
    [⟨"room", "Int", true, false, [], none⟩, ⟨"wall", "Int", true, false, [], none⟩,
      ⟨"board", "Int", true, false, [], none⟩]
  attributes := []

/-- The shelf, and books that stand on it. -/
def library : Schema := ⟨[shelf, ⟨"b", "Book", [], []⟩], [⟨"r", "b", "s", .oneToOne, .empty⟩]⟩

/-- A field that is added before the start is deleted at the start, one that is moved from the start
beyond the end is moved back from the end, one that is replaced before another one is put in its
place again, and a new model is deleted. -/
theorem undoesEdits_of_hasDistinctIds_library :
    library.HasDistinctIds ∧
      (∃ next, (Edit.addField "s" Edit.mark (some (-5)) true).apply library "" = .ok next ∧
        (Edit.deleteField "s" 0).LeadsTo next library) ∧
      (∃ next fields, (Edit.moveField "s" (-3) 7).LeadsTo library next ∧
        next.model? "s" = some { shelf with fields } ∧ fields[2]? = shelf.fields[0]? ∧
        (Edit.moveField "s" 2 0).LeadsTo next library) ∧
      (∃ next old, (Edit.updateField "s" (-2) Edit.mark false).LeadsTo library next ∧
        shelf.fields[1]? = some old ∧
        (Edit.updateField "s" (-2) old false).LeadsTo next library) ∧
      ∃ next, (Edit.addModel ⟨"", "Room", [], []⟩ true).apply library "n" = .ok next ∧
        (Edit.deleteModel "n").LeadsTo next library := by
  have distinct : library.HasDistinctIds := ⟨by decide, by decide⟩
  obtain ⟨fieldEdits, additions⟩ := undoesEdits_of_hasDistinctIds distinct
  have ofShelf := fieldEdits shelf (by decide) (by decide)
  refine ⟨distinct, ?_, ?_, ?_, ?_⟩
  · have made : (Edit.addField "s" Edit.mark (some (-5)) true).apply library "" =
        .ok (library.replaceModel { shelf with fields := Edit.mark :: shelf.fields }) := by
      decide +kernel
    obtain ⟨fields, -, -, back⟩ := ofShelf.added made
    exact ⟨_, made, back⟩
  · have here : shelf.HasFieldAt (-3) := ⟨by decide, by decide⟩
    have fit : Number.isWord 7 = true := by decide
    obtain ⟨next, fields, others, field, made, found, -, was, stands, back⟩ :=
      ofShelf.moved here fit
    exact ⟨next, fields, made, found, stands.here.trans was.here.symm, back⟩
  · have here : shelf.HasFieldAt (-2) := ⟨by decide, by decide⟩
    obtain ⟨next, old, made, stood, back⟩ := ofShelf.replaced Edit.mark here
    exact ⟨next, old, made, stood, back⟩
  · have made : (Edit.addModel ⟨"", "Room", [], []⟩ true).apply library "n" =
        .ok (library.appendModel ⟨"n", "Room", [], []⟩) := by
      decide +kernel
    exact ⟨_, made, additions.model (by decide) (by decide) made⟩

/-- A field that stays where it is when it is moved to the greatest position that is a machine word
is not moved at all beyond it. -/
theorem moveField_beyond_words :
    Edit.gauges.HasDistinctIds ∧
      (∀ model ∈ Edit.gauges.models, model.HasFieldAt 0) ∧
      (Edit.moveField "m" 0 9223372036854775807).apply Edit.gauges "" = .ok Edit.gauges ∧
      (Edit.moveField "m" 0 9223372036854775808).apply Edit.gauges "" =
        .error .oversizedPosition := by
  refine ⟨⟨by decide, by decide⟩, ?_, by decide +kernel, by decide +kernel⟩
  simp [Edit.gauges, Model.HasFieldAt]

end Schema

end SchemaDesk
