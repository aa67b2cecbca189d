import SchemaDesk.Proofs.Edit.Independence
import SchemaDesk.Proofs.Edit.Refusal
import SchemaDesk.Proofs.Payload.Change

/-!
# How edits fail

An edit is checked in a fixed order: that its id is there, that its keys are
known, that the merged data can be read, that a position holds a field, that it
fits a machine word, and that the entity at the gate has no errors. It fails
with the first of these that does not hold, and with nothing else.
-/

namespace SchemaDesk

/-- What kind of failure an error is. -/
inductive EditError.Kind where
  | unknownId | unknownKeys | malformed | noPlace | oversized | refused | unchecked
deriving DecidableEq, Repr

def EditError.kind : EditError → Kind
  | .unknownModel _ | .unknownRelationship _ => .unknownId
  | .unknownKeys _ _ => .unknownKeys
  | .malformed _ => .malformed
  | .noFieldAt | .noFieldToMove _ | .oversizedIndex => .noPlace
  | .oversizedPosition => .oversized
  | .invalidModel _ _ | .invalidRelationship _ _ _ => .refused
  | .unchecked _ => .unchecked

theorem bind_of_eq_ok {ε α β : Type} {first : Except ε α} {second : α → Except ε β} {value : α}
    (made : first = .ok value) : (first >>= second) = second value := by
  rw [made]
  rfl

theorem bind_of_eq_error {ε α β : Type} {first : Except ε α} {second : α → Except ε β}
    {problem : ε} (fails : first = .error problem) : (first >>= second) = .error problem := by
  rw [fails]
  rfl

/-! ## What an edit is checked for -/

/-- Some field stands at the position; a negative one counts from the end. -/
def Model.HasFieldAt (model : Model) (position : Int) : Prop :=
  -(model.fields.length : Int) ≤ position ∧ position < model.fields.length

namespace Model

theorem place?_eq_none_iff (model : Model) {position : Int} :
    Position.place? model.fields.length position = none ↔ ¬ model.HasFieldAt position := by
  rw [← Option.not_isSome_iff_eq_none, Position.place?_isSome_iff]
  rfl

theorem exists_place (model : Model) {position : Int} (here : model.HasFieldAt position) :
    ∃ place, Position.place? model.fields.length position = some place :=
  Option.isSome_iff_exists.mp ((Position.place?_isSome_iff _ _).mpr here)

/-- Wherever a field is to be moved, if it is there it is moved. -/
theorem exists_move? (model : Model) {source : Int} (here : model.HasFieldAt source)
    (target : Int) : ∃ fields, Position.move? model.fields source target = some fields := by
  obtain ⟨place, found⟩ := model.exists_place here
  simp [Position.move?, found, Position.place?_lt found]

end Model

namespace Edit

/-- The edit is made to an entity that is not there. -/
def AddressesNothing (schema : Schema) (edit : Edit) : Prop :=
  (∃ id, edit.modelId? = some id ∧ id ∉ schema.models.map (·.id)) ∨
    ∃ id, edit.relationshipId? = some id ∧ id ∉ schema.relationships.map (·.id)

/-- The keys of the edit that name nothing. -/
def strayKeys : Edit → List String
  | updateModel _ changes _ => changes.strayKeys Model.changeKeys
  | updateRelationship _ changes _ => changes.strayKeys Relationship.changeKeys
  | _ => []

/-- The data into which the edit merges its changes is rejected. -/
inductive IsRejected (schema : Schema) (ids : FreshIds) : Edit → Rejection → Prop
  | model {id : String} {changes : Changes} {validate : Bool} {old : Model} {issues : List Issue}
      (found : schema.model? id = some old)
      (rejected : (readModel ids .value (old.merged changes)).run = .error issues) :
      IsRejected schema ids (.updateModel id changes validate) ⟨"Model", issues⟩
  | relationship {id : String} {changes : Changes} {validate : Bool} {old : Relationship}
      {issues : List Issue} (found : schema.relationship? id = some old)
      (rejected : (readRelationship ids .value (old.merged changes)).run = .error issues) :
      IsRejected schema ids (.updateRelationship id changes validate) ⟨"Relationship", issues⟩

/-- The edit replaces, deletes or moves the field at a position that holds none. A position that is
replaced or deleted is also out of place beyond a machine word. -/
def HasNoPlace (schema : Schema) : Edit → Prop
  | updateField id position _ _ | deleteField id position =>
    ∃ model, schema.model? id = some model ∧
      ¬ (Number.isWord position = true ∧ model.HasFieldAt position)
  | moveField id source _ =>
    ∃ model, schema.model? id = some model ∧ Number.isWord source = true ∧
      ¬ model.HasFieldAt source
  | _ => False

/-- The edit inserts or moves a field, and a position is beyond a machine word. -/
def IsOversized : Edit → Prop
  | addField _ _ position? _ => ∃ position ∈ position?, Number.isWord position = false
  | moveField _ source target => Number.isWord source = false ∨ Number.isWord target = false
  | _ => False

/-- What the edit changes has to be valid. -/
def validates : Edit → Bool
  | addModel _ validate | updateModel _ _ validate | addField _ _ _ validate
  | updateField _ _ _ validate | addRelationship _ validate | updateRelationship _ _ validate =>
    validate
  | _ => false

/-- The edit without validation. -/
def ungated : Edit → Edit
  | addModel candidate _ => addModel candidate false
  | updateModel id changes _ => updateModel id changes false
  | addField id field position? _ => addField id field position? false
  | updateField id position field _ => updateField id position field false
  | addRelationship candidate _ => addRelationship candidate false
  | updateRelationship id changes _ => updateRelationship id changes false
  | other => other

/-- The entity that the edit has added or changed, in the schema after it. -/
def committed (next : Schema) : Edit → Gate
  | addModel _ _ => (next.models.getLast?.map Gate.model).getD .open
  | updateModel id _ _ | addField id _ _ _ | updateField id _ _ _ =>
    ((next.model? id).map Gate.model).getD .open
  | addRelationship _ _ => (next.relationships.getLast?.map Gate.relationship).getD .open
  | updateRelationship id _ _ => ((next.relationship? id).map Gate.relationship).getD .open
  | deleteModel _ | deleteField _ _ | moveField _ _ _ | deleteRelationship _ => .open

/-- The edit fails with an error of the kind. -/
def FailsWith (schema : Schema) (newId : String) (edit : Edit) (kind : EditError.Kind) : Prop :=
  ∃ problem, edit.error? schema newId = some problem ∧ problem.kind = kind

section Addressing

variable {schema : Schema} {edit : Edit} {id : String}

theorem addressesNothing_iff_of_modelId? (toModel : edit.modelId? = some id) :
    edit.AddressesNothing schema ↔ schema.model? id = none := by
  simp [AddressesNothing, toModel, relationshipId?_eq_none toModel, Schema.model?]

theorem addressesNothing_iff_of_relationshipId? (toRelationship : edit.relationshipId? = some id) :
    edit.AddressesNothing schema ↔ schema.relationship? id = none := by
  have noModel : edit.modelId? = none := by
    cases edit with
    | updateRelationship _ _ _ | deleteRelationship _ => rfl
    | _ => cases toRelationship
  simp [AddressesNothing, toRelationship, noModel, Schema.relationship?]

end Addressing

/-! ## The first check that fails -/

variable {schema : Schema} {newId : String} {ids : FreshIds} {edit : Edit}

theorem requireFit_of_isWord {problem : EditError} {position : Int}
    (fit : Number.isWord position = true) : requireFit problem position = .ok () :=
  requireFit_eq_ok_iff.mpr fit

theorem propose_of_addressesNothing (newId : String) (absent : edit.AddressesNothing schema) :
    ∃ problem, edit.propose schema newId = .error problem ∧ problem.kind = .unknownId := by
  rcases absent with ⟨id, toModel, absent⟩ | ⟨id, toRelationship, absent⟩
  · have none : schema.requireModel id = .error (.unknownModel id) := by
      have missing : schema.model? id = none := by simpa [Schema.model?] using absent
      rw [Schema.requireModel, missing]
    refine ⟨.unknownModel id, ?_, rfl⟩
    cases edit with
    | addModel | addRelationship | updateRelationship | deleteRelationship => cases toModel
    | _ =>
      cases toModel
      exact bind_of_eq_error none
  · have none : schema.requireRelationship id = .error (.unknownRelationship id) := by
      have missing : schema.relationship? id = none := by
        simpa [Schema.relationship?] using absent
      rw [Schema.requireRelationship, missing]
    refine ⟨.unknownRelationship id, ?_, rfl⟩
    cases edit with
    | updateRelationship | deleteRelationship =>
      cases toRelationship
      exact bind_of_eq_error none
    | _ => cases toRelationship

theorem exists_model_of_present {id : String} (toModel : edit.modelId? = some id)
    (present : ¬ edit.AddressesNothing schema) : ∃ old, schema.model? id = some old :=
  Option.ne_none_iff_exists'.mp fun none =>
    present ((addressesNothing_iff_of_modelId? toModel).mpr none)

theorem exists_relationship_of_present {id : String}
    (toRelationship : edit.relationshipId? = some id)
    (present : ¬ edit.AddressesNothing schema) : ∃ old, schema.relationship? id = some old :=
  Option.ne_none_iff_exists'.mp fun none =>
    present ((addressesNothing_iff_of_relationshipId? toRelationship).mpr none)

theorem propose_of_strayKeys (newId : String) (present : ¬ edit.AddressesNothing schema)
    (stray : edit.strayKeys ≠ []) :
    ∃ kind keys, edit.propose schema newId = .error (.unknownKeys kind keys) ∧
      keys.Perm edit.strayKeys ∧ keys.Pairwise (· ≤ ·) := by
  have read {α : Type} {changes : Changes} {kind : EntityKind} {known : List PartKey}
      (reading : Reading α) (some : changes.unknownKeys known ≠ []) :
      changes.read kind known reading = .error (.unknownKeys kind (changes.unknownKeys known)) := by
    unfold Changes.read
    split
    · next none => exact absurd none some
    · rfl
  cases edit with
  | updateModel id changes validate =>
    obtain ⟨old, found⟩ := exists_model_of_present rfl present
    have some := mt (Changes.unknownKeys_eq_nil_iff Model.mem_changeKeys_iff).mp stray
    refine ⟨.model, _, ?_, Changes.unknownKeys_perm Model.mem_changeKeys_iff,
      Changes.pairwise_unknownKeys⟩
    exact (bind_of_eq_ok (Schema.requireModel_eq_ok_iff.mpr found)).trans
      (bind_of_eq_error (read _ some))
  | updateRelationship id changes validate =>
    obtain ⟨old, found⟩ := exists_relationship_of_present rfl present
    have some := mt (Changes.unknownKeys_eq_nil_iff Relationship.mem_changeKeys_iff).mp stray
    refine ⟨.relationship, _, ?_, Changes.unknownKeys_perm Relationship.mem_changeKeys_iff,
      Changes.pairwise_unknownKeys⟩
    exact (bind_of_eq_ok (Schema.requireRelationship_eq_ok_iff.mpr found)).trans
      (bind_of_eq_error (read _ some))
  | _ => exact absurd rfl stray

theorem propose_of_isRejected (newId : String) (known : edit.strayKeys = []) {rejection : Rejection}
    (rejected : edit.IsRejected schema ids rejection) :
    edit.propose schema newId = .error (.malformed rejection) := by
  cases rejected with
  | @model id changes validate old issues found rejected =>
    have keys := (Changes.unknownKeys_eq_nil_iff Model.mem_changeKeys_iff).mpr known
    rw [old.readModel_merged ids changes] at rejected
    refine (bind_of_eq_ok (Schema.requireModel_eq_ok_iff.mpr found)).trans (bind_of_eq_error ?_)
    rw [Changes.read, keys, rejected]
    rfl
  | @relationship id changes validate old issues found rejected =>
    have keys := (Changes.unknownKeys_eq_nil_iff Relationship.mem_changeKeys_iff).mpr known
    rw [old.readRelationship_merged ids changes] at rejected
    refine (bind_of_eq_ok (Schema.requireRelationship_eq_ok_iff.mpr found)).trans
      (bind_of_eq_error ?_)
    rw [Changes.read, keys, rejected]
    rfl

/-- Fields at a position that is no place are not changed. -/
theorem exists_noPlace {α : Type} {model : Model} {position : Int} {fields? : Option (List Field)}
    (outside : ¬ (Number.isWord position = true ∧ model.HasFieldAt position))
    (unchanged : ¬ model.HasFieldAt position → fields? = none) (next : Model → Except EditError α) :
    ∃ problem : EditError,
      (do requireFit .oversizedIndex position
          next (← model.withFields? fields? .noFieldAt)) = .error problem ∧
        problem.kind = .noPlace := by
  by_cases fit : Number.isWord position = true
  · refine ⟨.noFieldAt, ?_, rfl⟩
    rw [unchanged fun here => outside ⟨fit, here⟩, bind_of_eq_ok (requireFit_of_isWord fit)]
    rfl
  · exact ⟨.oversizedIndex, bind_of_eq_error (if_neg fit), rfl⟩

theorem propose_of_hasNoPlace (newId : String) (outside : edit.HasNoPlace schema) :
    ∃ problem, edit.propose schema newId = .error problem ∧ problem.kind = .noPlace := by
  cases edit with
  | updateField id position field validate =>
    obtain ⟨model, found, outside⟩ := outside
    rw [propose, bind_of_eq_ok (Schema.requireModel_eq_ok_iff.mpr found)]
    refine exists_noPlace outside (fun empty => ?_) _
    rw [Position.replace?, Option.map_eq_none_iff]
    exact model.place?_eq_none_iff.mpr empty
  | deleteField id position =>
    obtain ⟨model, found, outside⟩ := outside
    rw [propose, bind_of_eq_ok (Schema.requireModel_eq_ok_iff.mpr found)]
    refine exists_noPlace outside (fun empty => ?_) _
    rw [Position.remove?, Option.map_eq_none_iff]
    exact model.place?_eq_none_iff.mpr empty
  | moveField id source target =>
    obtain ⟨model, found, fit, empty⟩ := outside
    refine ⟨.noFieldToMove model.fields.isEmpty, ?_, rfl⟩
    rw [propose, bind_of_eq_ok (Schema.requireModel_eq_ok_iff.mpr found),
      bind_of_eq_ok (requireFit_of_isWord fit), Position.move?,
      model.place?_eq_none_iff.mpr empty]
    rfl
  | _ => exact outside.elim

theorem propose_of_isOversized (newId : String) (present : ¬ edit.AddressesNothing schema)
    (inside : ¬ edit.HasNoPlace schema) (oversized : edit.IsOversized) :
    edit.propose schema newId = .error .oversizedPosition := by
  cases edit with
  | addField id field position? validate =>
    obtain ⟨model, found⟩ := exists_model_of_present rfl present
    obtain ⟨position, given, big⟩ := oversized
    cases given
    rw [propose, bind_of_eq_ok (Schema.requireModel_eq_ok_iff.mpr found)]
    exact bind_of_eq_error (if_neg (by simp [big]))
  | moveField id source target =>
    obtain ⟨model, found⟩ := exists_model_of_present rfl present
    rw [propose, bind_of_eq_ok (Schema.requireModel_eq_ok_iff.mpr found)]
    by_cases fit : Number.isWord source = true
    · have big : ¬ Number.isWord target = true := by simpa [IsOversized, fit] using oversized
      have here : model.HasFieldAt source := by
        by_contra empty
        exact inside ⟨model, found, fit, empty⟩
      obtain ⟨fields, moved⟩ := model.exists_move? here target
      rw [bind_of_eq_ok (requireFit_of_isWord fit), moved]
      exact (bind_of_eq_ok rfl).trans (bind_of_eq_error (if_neg big))
    · exact bind_of_eq_error (if_neg fit)
  | _ => exact oversized.elim

/-- An edit for which every check passes proposes a schema. -/
theorem exists_proposes (newId : String) (present : ¬ edit.AddressesNothing schema)
    (known : edit.strayKeys = []) (accepted : ∀ rejection, ¬ edit.IsRejected schema ids rejection)
    (inside : ¬ edit.HasNoPlace schema) (fits : ¬ edit.IsOversized) :
    ∃ gate next, edit.Proposes schema newId gate next := by
  cases edit with
  | addModel candidate validate => exact ⟨_, _, .addModel candidate validate⟩
  | addRelationship candidate validate => exact ⟨_, _, .addRelationship candidate validate⟩
  | updateModel id changes validate =>
    obtain ⟨old, found⟩ := exists_model_of_present rfl present
    have keys := (Changes.unknownKeys_eq_nil_iff Model.mem_changeKeys_iff).mpr known
    cases read : (old.readChanges changes).run with
    | error issues =>
      exact absurd (.model found (old.readModel_merged ids changes ▸ read)) (accepted _)
    | ok new => exact ⟨_, _, .updateModel validate found keys read⟩
  | updateRelationship id changes validate =>
    obtain ⟨old, found⟩ := exists_relationship_of_present rfl present
    have keys := (Changes.unknownKeys_eq_nil_iff Relationship.mem_changeKeys_iff).mpr known
    cases read : (old.readChanges changes).run with
    | error issues =>
      exact absurd (.relationship found (old.readRelationship_merged ids changes ▸ read))
        (accepted _)
    | ok new => exact ⟨_, _, .updateRelationship validate found keys read⟩
  | deleteModel id =>
    obtain ⟨old, found⟩ := exists_model_of_present rfl present
    exact ⟨_, _, .deleteModel found⟩
  | deleteRelationship id =>
    obtain ⟨old, found⟩ := exists_relationship_of_present rfl present
    exact ⟨_, _, .deleteRelationship found⟩
  | addField id field position? validate =>
    obtain ⟨old, found⟩ := exists_model_of_present rfl present
    exact ⟨_, _, .addField field validate found (by simpa [IsOversized] using fits)⟩
  | updateField id position field validate =>
    obtain ⟨old, found⟩ := exists_model_of_present rfl present
    obtain ⟨fit, here⟩ := not_not.mp fun outside => inside ⟨old, found, outside⟩
    obtain ⟨place, placed⟩ := old.exists_place here
    exact ⟨_, _, .updateField validate found fit (Option.map_eq_some_iff.mpr ⟨place, placed, rfl⟩)⟩
  | deleteField id position =>
    obtain ⟨old, found⟩ := exists_model_of_present rfl present
    obtain ⟨fit, here⟩ := not_not.mp fun outside => inside ⟨old, found, outside⟩
    obtain ⟨place, placed⟩ := old.exists_place here
    exact ⟨_, _, .deleteField found fit (Option.map_eq_some_iff.mpr ⟨place, placed, rfl⟩)⟩
  | moveField id source target =>
    obtain ⟨old, found⟩ := exists_model_of_present rfl present
    have fit : Number.isWord source = true ∧ Number.isWord target = true := by
      simpa [IsOversized] using fits
    have here := not_not.mp fun empty => inside ⟨old, found, fit.1, empty⟩
    obtain ⟨fields, moved⟩ := old.exists_move? here target
    exact ⟨_, _, .moveField found fit moved⟩

/-! ## At the gate -/

/-- Without validation an edit proposes the same schema, behind no gate. -/
theorem Proposes.ungated {gate : Gate} {next : Schema}
    (proposes : edit.Proposes schema newId gate next) :
    edit.ungated.Proposes schema newId .open next := by
  cases proposes with
  | addModel candidate => exact .addModel candidate false
  | updateModel _ found known read => exact .updateModel false found known read
  | deleteModel found => exact .deleteModel found
  | addField field _ found fit => exact .addField field false found fit
  | updateField _ found fit replaced => exact .updateField false found fit replaced
  | deleteField found fit removed => exact .deleteField found fit removed
  | moveField found fit moved => exact .moveField found fit moved
  | addRelationship candidate => exact .addRelationship candidate false
  | updateRelationship _ found known read => exact .updateRelationship false found known read
  | deleteRelationship found => exact .deleteRelationship found

theorem Proposes.gate_eq_open {gate : Gate} {next : Schema}
    (proposes : edit.Proposes schema newId gate next) (free : edit.validates = false) :
    gate = .open := by
  cases proposes with
  | deleteModel | deleteField | moveField | deleteRelationship => rfl
  | _ =>
    cases free
    rfl

/-- What stands at the gate has the diagnostics of what will be in the schema, and is refused in the
same words. -/
theorem Proposes.diagnostics_eq {gate : Gate} {next : Schema}
    (proposes : edit.Proposes schema newId gate next) (gated : edit.validates = true) :
    gate.diagnostics schema.models = (edit.committed next).diagnostics next.models ∧
      ∀ found, gate.refusal found = (edit.committed next).refusal found := by
  cases proposes with
  | deleteModel | deleteField | moveField | deleteRelationship => cases gated
  | addModel candidate validate =>
    cases gated
    simp only [committed, Schema.appendModel, List.getLast?_concat]
    exact ⟨rfl, fun _ => rfl⟩
  | addRelationship candidate validate =>
    cases gated
    simp only [committed, Schema.appendRelationship, List.getLast?_concat]
    exact ⟨rfl, fun _ => rfl⟩
  | @updateRelationship id changes old new _ found known read =>
    cases gated
    have same := (Relationship.id_of_readChanges read).trans (Schema.relationship?_eq_some found).2
    rw [committed, Schema.relationship?_replaceRelationship_self found same]
    exact ⟨rfl, fun _ => rfl⟩
  | @updateModel id changes old new _ found known read =>
    cases gated
    have same := (Model.id_of_readChanges read).trans (Schema.model?_eq_some found).2
    rw [committed, Schema.model?_replaceModel_self found same]
    exact ⟨rfl, fun _ => rfl⟩
  | @addField id old position? field _ found fit =>
    cases gated
    have same : ({ old with fields := insertField old.fields position? field } : Model).id = id :=
      (Schema.model?_eq_some found).2
    rw [committed, Schema.model?_replaceModel_self found same]
    exact ⟨rfl, fun _ => rfl⟩
  | @updateField id old _ _ fields _ found fit replaced =>
    cases gated
    have same : ({ old with fields } : Model).id = id := (Schema.model?_eq_some found).2
    rw [committed, Schema.model?_replaceModel_self found same]
    exact ⟨rfl, fun _ => rfl⟩

/-! ## Errors and their causes -/

theorem error?_of_propose {problem : EditError}
    (fails : edit.propose schema newId = .error problem) :
    edit.error? schema newId = some problem := by
  rw [error?, apply, bind_of_eq_error fails]

theorem error?_of_apply {problem : EditError} (fails : edit.apply schema newId = .error problem) :
    edit.error? schema newId = some problem := by
  rw [error?, fails]

/-- An edit fails with one error. -/
theorem kind_of_failsWith {kind : EditError.Kind} {problem : EditError}
    (fails : edit.FailsWith schema newId kind)
    (made : edit.error? schema newId = some problem) : problem.kind = kind := by
  obtain ⟨other, madeToo, same⟩ := fails
  rw [← same, Option.some.inj (made.symm.trans madeToo)]

/-- Behind no gate a proposal is made. -/
theorem Proposes.apply_eq {next : Schema} (proposes : edit.Proposes schema newId .open next) :
    edit.apply schema newId = .ok next :=
  apply_of_clean (propose_eq_ok_iff.mpr proposes) rfl rfl

/-- What is wrong with an edit that fails with an error of a kind. -/
def HasCause (schema : Schema) (ids : FreshIds) (edit : Edit) : EditError.Kind → Prop
  | .unknownId => edit.AddressesNothing schema
  | .unknownKeys => edit.strayKeys ≠ []
  | .malformed => ∃ rejection, edit.IsRejected schema ids rejection
  | .noPlace => edit.HasNoPlace schema
  | .oversized => edit.IsOversized
  | .refused | .unchecked => edit.validates = true

/-- An error has its cause. -/
theorem hasCause_of_failsWith (ids : FreshIds) {kind : EditError.Kind}
    (fails : edit.FailsWith schema newId kind) : edit.HasCause schema ids kind := by
  by_cases absent : edit.AddressesNothing schema
  · obtain ⟨problem, made, same⟩ := propose_of_addressesNothing newId absent
    rw [← kind_of_failsWith fails (error?_of_propose made), same]
    exact absent
  by_cases stray : edit.strayKeys ≠ []
  · obtain ⟨_, _, made, -⟩ := propose_of_strayKeys newId absent stray
    rw [← kind_of_failsWith fails (error?_of_propose made)]
    exact stray
  have known := not_not.mp stray
  by_cases rejected : ∃ rejection, edit.IsRejected schema ids rejection
  · obtain ⟨rejection, rejects⟩ := rejected
    rw [← kind_of_failsWith fails (error?_of_propose (propose_of_isRejected newId known rejects))]
    exact ⟨rejection, rejects⟩
  by_cases outside : edit.HasNoPlace schema
  · obtain ⟨problem, made, same⟩ := propose_of_hasNoPlace newId outside
    rw [← kind_of_failsWith fails (error?_of_propose made), same]
    exact outside
  by_cases oversized : edit.IsOversized
  · have made := propose_of_isOversized newId absent outside oversized
    rw [← kind_of_failsWith fails (error?_of_propose made)]
    exact oversized
  -- Every check passes, so it is the gate that does not open.
  obtain ⟨gate, next, proposes⟩ := exists_proposes newId absent known
    (not_exists.mp rejected) outside oversized
  have gated : edit.validates = true := by
    by_contra free
    obtain rfl := proposes.gate_eq_open (Bool.not_eq_true _ ▸ free)
    obtain ⟨problem, made, -⟩ := fails
    simp [error?, proposes.apply_eq] at made
  cases validated : gate.diagnostics schema.models with
  | error failure =>
    have made := apply_of_failure (propose_eq_ok_iff.mpr proposes) validated
    rw [← kind_of_failsWith fails (error?_of_apply made)]
    exact gated
  | ok found =>
    cases blocked : hasErrors found with
    | false =>
      obtain ⟨problem, made, -⟩ := fails
      simp [error?, apply_of_clean (propose_eq_ok_iff.mpr proposes) validated blocked] at made
    | true =>
      have made := apply_of_hasErrors (propose_eq_ok_iff.mpr proposes) validated blocked
      rw [← kind_of_failsWith fails (error?_of_apply made)]
      cases gate <;> exact gated

/-! ## The order of the checks -/

/-- How an edit fails: for each check, provided that those before it pass, with which error, if and
only if what fails. The data that the errors carry is told as well. -/
structure FailsInOrder (schema : Schema) (newId : String) (ids : FreshIds) (edit : Edit) :
    Prop where
  unknownId : edit.FailsWith schema newId .unknownId ↔ edit.AddressesNothing schema
  unknownKeys : ¬ edit.AddressesNothing schema →
    (edit.FailsWith schema newId .unknownKeys ↔ edit.strayKeys ≠ [])
  reportedKeys : ∀ kind keys, edit.error? schema newId = some (.unknownKeys kind keys) →
    keys.Perm edit.strayKeys ∧ keys.Pairwise (· ≤ ·)
  malformed : ¬ edit.AddressesNothing schema → edit.strayKeys = [] →
    ∀ rejection, edit.error? schema newId = some (.malformed rejection) ↔
      edit.IsRejected schema ids rejection
  noPlace : ¬ edit.AddressesNothing schema → edit.strayKeys = [] →
    (∀ rejection, ¬ edit.IsRejected schema ids rejection) →
    (edit.FailsWith schema newId .noPlace ↔ edit.HasNoPlace schema)
  oversized : ¬ edit.AddressesNothing schema → edit.strayKeys = [] →
    (∀ rejection, ¬ edit.IsRejected schema ids rejection) → ¬ edit.HasNoPlace schema →
    (edit.FailsWith schema newId .oversized ↔ edit.IsOversized)
  gate : ¬ edit.AddressesNothing schema → edit.strayKeys = [] →
    (∀ rejection, ¬ edit.IsRejected schema ids rejection) → ¬ edit.HasNoPlace schema →
    ¬ edit.IsOversized → ∃ next, edit.ungated.apply schema newId = .ok next ∧
      (edit.validates = false → edit.apply schema newId = .ok next) ∧
      (edit.validates = true → ∀ found,
        (edit.committed next).diagnostics next.models = .ok found →
        (hasErrors found = true → edit.error? schema newId =
          some ((edit.committed next).refusal found)) ∧
        (hasErrors found = false → edit.apply schema newId = .ok next))
  unrefused : edit.validates = false → ¬ edit.FailsWith schema newId .refused

theorem failsInOrder (schema : Schema) (newId : String) (ids : FreshIds) (edit : Edit) :
    edit.FailsInOrder schema newId ids where
  unknownId := by
    refine ⟨fun fails => hasCause_of_failsWith ids fails, fun absent => ?_⟩
    obtain ⟨problem, made, kind⟩ := propose_of_addressesNothing newId absent
    exact ⟨problem, error?_of_propose made, kind⟩
  unknownKeys present := by
    refine ⟨fun fails => hasCause_of_failsWith ids fails, fun stray => ?_⟩
    obtain ⟨kind, keys, made, -⟩ := propose_of_strayKeys newId present stray
    exact ⟨_, error?_of_propose made, rfl⟩
  reportedKeys kind keys made := by
    have fails : edit.FailsWith schema newId .unknownKeys := ⟨_, made, rfl⟩
    have present : ¬ edit.AddressesNothing schema := fun absent => by
      obtain ⟨problem, madeToo, kind⟩ := propose_of_addressesNothing newId absent
      have same := kind_of_failsWith fails (error?_of_propose madeToo)
      rw [kind] at same
      cases same
    obtain ⟨_, _, madeToo, named⟩ := propose_of_strayKeys newId present
      (hasCause_of_failsWith ids fails)
    cases made.symm.trans (error?_of_propose madeToo)
    exact named
  malformed present known rejection := by
    have fails {rejection : Rejection} (rejected : edit.IsRejected schema ids rejection) :
        edit.error? schema newId = some (.malformed rejection) :=
      error?_of_propose (propose_of_isRejected newId known rejected)
    refine ⟨fun made => ?_, fails⟩
    obtain ⟨other, rejected⟩ := hasCause_of_failsWith ids ⟨_, made, rfl⟩
    cases made.symm.trans (fails rejected)
    exact rejected
  noPlace present known accepted := by
    refine ⟨fun fails => hasCause_of_failsWith ids fails, fun outside => ?_⟩
    obtain ⟨problem, made, kind⟩ := propose_of_hasNoPlace newId outside
    exact ⟨problem, error?_of_propose made, kind⟩
  oversized present known accepted inside := by
    refine ⟨fun fails => hasCause_of_failsWith ids fails, fun oversized => ?_⟩
    exact ⟨_, error?_of_propose (propose_of_isOversized newId present inside oversized), rfl⟩
  gate present known accepted inside fits := by
    obtain ⟨gate, next, proposes⟩ := exists_proposes newId present known accepted inside
      fits
    refine ⟨next, proposes.ungated.apply_eq, fun free => ?_, fun gated found validated => ?_⟩
    · obtain rfl := proposes.gate_eq_open free
      exact proposes.apply_eq
    · obtain ⟨same, refusal⟩ := proposes.diagnostics_eq gated
      rw [← same] at validated
      rw [← refusal]
      exact ⟨fun blocked => error?_of_apply
          (apply_of_hasErrors (propose_eq_ok_iff.mpr proposes) validated blocked),
        apply_of_clean (propose_eq_ok_iff.mpr proposes) validated⟩
  unrefused free fails := by
    have gated : edit.validates = true := hasCause_of_failsWith ids fails
    simp [free] at gated

/-- A gauge with one level. -/
def gauges : Schema := ⟨[⟨"m", "Gauge", [⟨"level", "Int", true, false, [], none⟩], []⟩], []⟩

/-- Edits of the gauge that are stopped by each check of positions and keys, and one that passes
all. -/
theorem failsInOrder_gauges :
    (deleteModel "n").FailsWith gauges "" .unknownId ∧
      (updateModel "m" [("size", .null)] true).FailsWith gauges "" .unknownKeys ∧
      (deleteField "m" 1).FailsWith gauges "" .noPlace ∧
      (moveField "m" 0 9223372036854775808).FailsWith gauges "" .oversized ∧
      ∃ next, (moveField "m" (-1) 0).apply gauges "" = .ok next := by
  have present {edit : Edit} (toModel : edit.modelId? = some "m") :
      ¬ edit.AddressesNothing gauges := by
    rw [addressesNothing_iff_of_modelId? toModel]
    decide
  have checks (edit : Edit) := failsInOrder gauges "" (fun _ => "new") edit
  have here : (gauges.model? "m").isSome = true := by decide
  obtain ⟨gauge, found⟩ := Option.isSome_iff_exists.mp here
  have length : gauge.fields.length = 1 := by
    cases found
    rfl
  refine ⟨(checks _).unknownId.mpr ?_, ((checks _).unknownKeys (present rfl)).mpr (by decide), ?_,
    ?_, ?_⟩
  · rw [addressesNothing_iff_of_modelId? rfl]
    decide
  · refine ((checks _).noPlace (present rfl) rfl (fun _ rejected => by cases rejected)).mpr ?_
    refine ⟨gauge, found, fun place => ?_⟩
    have := place.2.2
    simp [length] at this
  · refine ((checks _).oversized (present rfl) rfl (fun _ rejected => by cases rejected) ?_).mpr
      (.inr (by decide))
    rintro ⟨model, foundToo, -, outside⟩
    cases found.symm.trans foundToo
    exact outside (by simp [Model.HasFieldAt, length])
  · have inside : ¬ (moveField "m" (-1) 0).HasNoPlace gauges := by
      rintro ⟨model, foundToo, -, outside⟩
      cases found.symm.trans foundToo
      exact outside (by simp [Model.HasFieldAt, length])
    obtain ⟨next, -, free, -⟩ := (checks _).gate (present rfl) rfl
      (fun _ rejected => by cases rejected) inside (by simp [IsOversized, Number.isWord])
    exact ⟨next, free rfl⟩

/-- A field that the gauge does not have. -/
def mark : Field := ⟨"mark", "Int", true, false, [], none⟩

/-- A position beyond a machine word stops edits of a gauge that is there: a field is not inserted
at the end, and one that is to be moved from there is not said to be missing. -/
theorem fails_beyond_words :
    (addField "m" mark (some 9223372036854775808) false).error? gauges "" =
        some .oversizedPosition ∧
      (addField "m" mark (some 9223372036854775807) false).error? gauges "" = none ∧
      (moveField "m" 9223372036854775808 0).error? gauges "" = some .oversizedPosition ∧
      (moveField "m" 9223372036854775807 0).error? gauges "" = some (.noFieldToMove false) := by
  decide +kernel

end Edit

end SchemaDesk
