import SchemaDesk.Edit.Basic
import SchemaDesk.Proofs.Validation.Schema

/-!
# What edits propose

For every edit, when it proposes a schema, which one, and behind which gate.
Everything that is proved about the effect of an edit starts from these rules.
-/

namespace SchemaDesk

/-- A computation of two steps succeeds if both do. -/
theorem bind_eq_ok_iff {ε α β : Type} {first : Except ε α} {second : α → Except ε β} {result : β} :
    (first >>= second) = .ok result ↔ ∃ value, first = .ok value ∧ second value = .ok result := by
  cases first with
  | error problem => simp [bind, Except.bind]
  | ok value => simp [bind, Except.bind]

theorem Schema.requireModel_eq_ok_iff {schema : Schema} {id : String} {model : Model} :
    schema.requireModel id = .ok model ↔ schema.model? id = some model := by
  unfold requireModel
  split
  · next found => simp [found]
  · next absent => simp [absent]

theorem Schema.requireRelationship_eq_ok_iff {schema : Schema} {id : String}
    {relationship : Relationship} :
    schema.requireRelationship id = .ok relationship ↔
      schema.relationship? id = some relationship := by
  unfold requireRelationship
  split
  · next found => simp [found]
  · next absent => simp [absent]

theorem Changes.read_eq_ok_iff {α : Type} {changes : Changes} {kind : EntityKind}
    {known : List PartKey} {reading : Reading α} {entity : α} :
    changes.read kind known reading = .ok entity ↔
      changes.unknownKeys known = [] ∧ reading.run = .ok entity := by
  unfold read
  split
  · next noKeys => cases reading.run <;> simp [noKeys]
  · next someKeys => simp [show unknownKeys known changes ≠ [] from someKeys]

theorem Model.withFields?_eq_ok_iff {model next : Model} {fields? : Option (List Field)}
    {error : EditError} :
    model.withFields? fields? error = .ok next ↔
      ∃ fields, fields? = some fields ∧ next = { model with fields } := by
  cases fields? <;> simp [withFields?, eq_comm]

theorem requireFit_eq_ok_iff {error : EditError} {position : Int} {done : Unit} :
    requireFit error position = .ok done ↔ Number.isWord position = true := by
  unfold requireFit
  split
  · next fits => simp [fits]
  · next oversized => simp [oversized]

theorem forM_requireFit_eq_ok_iff {error : EditError} {position? : Option Int} {done : Unit} :
    position?.forM (requireFit error) = .ok done ↔
      ∀ position ∈ position?, Number.isWord position = true := by
  cases position? with
  | none => simp [Option.forM, pure, Except.pure]
  | some position => simp [Option.forM, requireFit_eq_ok_iff]

/-- The schema that an edit proposes and the gate it puts before it, with the conditions under
which it gets so far. -/
inductive Edit.Proposes (schema : Schema) (newId : String) : Edit → Gate → Schema → Prop
  | addModel (candidate : Model) (validate : Bool) :
      Proposes schema newId (.addModel candidate validate) (.forModel validate candidate)
        (schema.appendModel { candidate with id := newId })
  | updateModel {id : String} {changes : Changes} {old new : Model} (validate : Bool)
      (found : schema.model? id = some old) (known : changes.unknownKeys Model.partKeys = [])
      (read : (old.readChanges changes).run = .ok new) :
      Proposes schema newId (.updateModel id changes validate) (.forModel validate new)
        (schema.replaceModel new)
  | deleteModel {id : String} {old : Model} (found : schema.model? id = some old) :
      Proposes schema newId (.deleteModel id) .open (schema.removeModel id)
  | addField {id : String} {old : Model} {position? : Option Int} (field : Field) (validate : Bool)
      (found : schema.model? id = some old)
      (fit : ∀ position ∈ position?, Number.isWord position = true) :
      Proposes schema newId (.addField id field position? validate)
        (.forModel validate { old with fields := insertField old.fields position? field })
        (schema.replaceModel { old with fields := insertField old.fields position? field })
  | updateField {id : String} {old : Model} {position : Int} {field : Field} {fields : List Field}
      (validate : Bool) (found : schema.model? id = some old)
      (fit : Number.isWord position = true)
      (replaced : Position.replace? old.fields position field = some fields) :
      Proposes schema newId (.updateField id position field validate)
        (.forModel validate { old with fields }) (schema.replaceModel { old with fields })
  | deleteField {id : String} {old : Model} {position : Int} {fields : List Field}
      (found : schema.model? id = some old) (fit : Number.isWord position = true)
      (removed : Position.remove? old.fields position = some fields) :
      Proposes schema newId (.deleteField id position) .open
        (schema.replaceModel { old with fields })
  | moveField {id : String} {old : Model} {source target : Int} {fields : List Field}
      (found : schema.model? id = some old)
      (fit : Number.isWord source = true ∧ Number.isWord target = true)
      (moved : Position.move? old.fields source target = some fields) :
      Proposes schema newId (.moveField id source target) .open
        (schema.replaceModel { old with fields })
  | addRelationship (candidate : Relationship) (validate : Bool) :
      Proposes schema newId (.addRelationship candidate validate)
        (.forRelationship validate candidate)
        (schema.appendRelationship { candidate with id := newId })
  | updateRelationship {id : String} {changes : Changes} {old new : Relationship} (validate : Bool)
      (found : schema.relationship? id = some old)
      (known : changes.unknownKeys Relationship.partKeys = [])
      (read : (old.readChanges changes).run = .ok new) :
      Proposes schema newId (.updateRelationship id changes validate)
        (.forRelationship validate new) (schema.replaceRelationship new)
  | deleteRelationship {id : String} {old : Relationship}
      (found : schema.relationship? id = some old) :
      Proposes schema newId (.deleteRelationship id) .open (schema.removeRelationship id)

namespace Edit

/-- The rules say exactly what edits propose. -/
theorem propose_eq_ok_iff {schema next : Schema} {newId : String} {edit : Edit} {gate : Gate} :
    edit.propose schema newId = .ok ⟨gate, next⟩ ↔ edit.Proposes schema newId gate next := by
  constructor
  · intro proposed
    cases edit with
    | addModel candidate validate =>
      cases proposed
      exact .addModel candidate validate
    | updateModel id changes validate =>
      simp only [propose, bind_eq_ok_iff, Schema.requireModel_eq_ok_iff,
        Changes.read_eq_ok_iff] at proposed
      obtain ⟨old, found, new, ⟨known, read⟩, made⟩ := proposed
      cases made
      exact .updateModel validate found known read
    | deleteModel id =>
      simp only [propose, bind_eq_ok_iff, Schema.requireModel_eq_ok_iff] at proposed
      obtain ⟨old, found, made⟩ := proposed
      cases made
      exact .deleteModel found
    | addField id field position? validate =>
      simp only [propose, bind_eq_ok_iff, Schema.requireModel_eq_ok_iff,
        forM_requireFit_eq_ok_iff] at proposed
      obtain ⟨old, found, _, fit, made⟩ := proposed
      cases made
      exact .addField field validate found fit
    | updateField id position field validate =>
      simp only [propose, bind_eq_ok_iff, Schema.requireModel_eq_ok_iff, requireFit_eq_ok_iff,
        Model.withFields?_eq_ok_iff] at proposed
      obtain ⟨old, found, _, fit, new, ⟨fields, replaced, rfl⟩, made⟩ := proposed
      cases made
      exact .updateField validate found fit replaced
    | deleteField id position =>
      simp only [propose, bind_eq_ok_iff, Schema.requireModel_eq_ok_iff, requireFit_eq_ok_iff,
        Model.withFields?_eq_ok_iff] at proposed
      obtain ⟨old, found, _, fit, new, ⟨fields, removed, rfl⟩, made⟩ := proposed
      cases made
      exact .deleteField found fit removed
    | moveField id source target =>
      simp only [propose, bind_eq_ok_iff, Schema.requireModel_eq_ok_iff, requireFit_eq_ok_iff,
        Model.withFields?_eq_ok_iff] at proposed
      obtain ⟨old, found, _, fitSource, new, ⟨fields, moved, rfl⟩, _, fitTarget, made⟩ := proposed
      cases made
      exact .moveField found ⟨fitSource, fitTarget⟩ moved
    | addRelationship candidate validate =>
      cases proposed
      exact .addRelationship candidate validate
    | updateRelationship id changes validate =>
      simp only [propose, bind_eq_ok_iff, Schema.requireRelationship_eq_ok_iff,
        Changes.read_eq_ok_iff] at proposed
      obtain ⟨old, found, new, ⟨known, read⟩, made⟩ := proposed
      cases made
      exact .updateRelationship validate found known read
    | deleteRelationship id =>
      simp only [propose, bind_eq_ok_iff, Schema.requireRelationship_eq_ok_iff] at proposed
      obtain ⟨old, found, made⟩ := proposed
      cases made
      exact .deleteRelationship found
  · intro proposed
    cases proposed with
    | addModel => rfl
    | updateModel validate found known read =>
      exact bind_eq_ok_iff.mpr ⟨_, Schema.requireModel_eq_ok_iff.mpr found,
        bind_eq_ok_iff.mpr ⟨_, Changes.read_eq_ok_iff.mpr ⟨known, read⟩, rfl⟩⟩
    | deleteModel found =>
      exact bind_eq_ok_iff.mpr ⟨_, Schema.requireModel_eq_ok_iff.mpr found, rfl⟩
    | addField field validate found fit =>
      exact bind_eq_ok_iff.mpr ⟨_, Schema.requireModel_eq_ok_iff.mpr found,
        bind_eq_ok_iff.mpr ⟨(), forM_requireFit_eq_ok_iff.mpr fit, rfl⟩⟩
    | updateField validate found fit replaced =>
      exact bind_eq_ok_iff.mpr ⟨_, Schema.requireModel_eq_ok_iff.mpr found,
        bind_eq_ok_iff.mpr ⟨(), requireFit_eq_ok_iff.mpr fit,
          bind_eq_ok_iff.mpr ⟨_, Model.withFields?_eq_ok_iff.mpr ⟨_, replaced, rfl⟩, rfl⟩⟩⟩
    | deleteField found fit removed =>
      exact bind_eq_ok_iff.mpr ⟨_, Schema.requireModel_eq_ok_iff.mpr found,
        bind_eq_ok_iff.mpr ⟨(), requireFit_eq_ok_iff.mpr fit,
          bind_eq_ok_iff.mpr ⟨_, Model.withFields?_eq_ok_iff.mpr ⟨_, removed, rfl⟩, rfl⟩⟩⟩
    | moveField found fit moved =>
      exact bind_eq_ok_iff.mpr ⟨_, Schema.requireModel_eq_ok_iff.mpr found,
        bind_eq_ok_iff.mpr ⟨(), requireFit_eq_ok_iff.mpr fit.1,
          bind_eq_ok_iff.mpr ⟨_, Model.withFields?_eq_ok_iff.mpr ⟨_, moved, rfl⟩,
            bind_eq_ok_iff.mpr ⟨(), requireFit_eq_ok_iff.mpr fit.2, rfl⟩⟩⟩⟩
    | addRelationship => rfl
    | updateRelationship validate found known read =>
      exact bind_eq_ok_iff.mpr ⟨_, Schema.requireRelationship_eq_ok_iff.mpr found,
        bind_eq_ok_iff.mpr ⟨_, Changes.read_eq_ok_iff.mpr ⟨known, read⟩, rfl⟩⟩
    | deleteRelationship found =>
      exact bind_eq_ok_iff.mpr ⟨_, Schema.requireRelationship_eq_ok_iff.mpr found, rfl⟩

end Edit

end SchemaDesk
