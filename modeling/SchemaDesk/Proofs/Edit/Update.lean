import SchemaDesk.Proofs.Edit.Effect
import SchemaDesk.Proofs.Edit.Independence
import SchemaDesk.Proofs.Payload.Change

/-!
# Updates

An update puts the merge of its changes into the place of the old entity. No
changes make no difference, and two updates of one entity, one after the other,
are one update with the first changes overridden by the second.
-/

namespace SchemaDesk

/-! ## Merges -/

namespace Model

variable {old between new : Model} {first second : Changes}

theorem isMerge_nil_iff : IsMerge [] old new ↔ new = old := by
  constructor
  · intro merge
    obtain ⟨id, name, fields, attributes⟩ := new
    obtain rfl := merge.id
    obtain rfl := Changes.sets_nil_iff.mp merge.name
    obtain rfl := Changes.sets_nil_iff.mp merge.fields
    obtain rfl := Changes.sets_nil_iff.mp merge.attributes
    rfl
  · rintro rfl
    exact ⟨rfl, Changes.sets_nil_iff.mpr rfl, Changes.sets_nil_iff.mpr rfl,
      Changes.sets_nil_iff.mpr rfl⟩

/-- Merges of changes one after another are a merge of both. -/
theorem IsMerge.trans (merge : IsMerge first old between) (mergeToo : IsMerge second between new) :
    IsMerge (first.overriddenBy partKeys second) old new := by
  have apart : partKeys.Pairwise PartKey.Apart := by decide
  exact {
    id := mergeToo.id.trans merge.id
    name := merge.name.trans apart (by decide) mergeToo.name
    fields := merge.fields.trans apart (by decide) mergeToo.fields
    attributes := merge.attributes.trans apart (by decide) mergeToo.attributes }

end Model

namespace Relationship

variable {old between new : Relationship} {first second : Changes}

theorem isMerge_nil_iff : IsMerge [] old new ↔ new = old := by
  constructor
  · intro merge
    obtain ⟨id, source, target, cardinality, clause⟩ := new
    obtain rfl := merge.id
    obtain rfl := Changes.sets_nil_iff.mp merge.source
    obtain rfl := Changes.sets_nil_iff.mp merge.target
    obtain rfl := Changes.sets_nil_iff.mp merge.cardinality
    obtain rfl := Changes.sets_nil_iff.mp merge.clause
    rfl
  · rintro rfl
    exact ⟨rfl, Changes.sets_nil_iff.mpr rfl, Changes.sets_nil_iff.mpr rfl,
      Changes.sets_nil_iff.mpr rfl, Changes.sets_nil_iff.mpr rfl⟩

/-- Merges of changes one after another are a merge of both. -/
theorem IsMerge.trans (merge : IsMerge first old between) (mergeToo : IsMerge second between new) :
    IsMerge (first.overriddenBy partKeys second) old new := by
  have apart : partKeys.Pairwise PartKey.Apart := by decide
  exact {
    id := mergeToo.id.trans merge.id
    source := merge.source.trans apart (by decide) mergeToo.source
    target := merge.target.trans apart (by decide) mergeToo.target
    cardinality := merge.cardinality.trans apart (by decide) mergeToo.cardinality
    clause := merge.clause.trans apart (by decide) mergeToo.clause }

end Relationship

/-! ## Replacing -/

section Entries

variable {α : Type} {idOf : α → String} {entries : List α}

/-- Where ids are distinct, an entry in its own place changes nothing. -/
theorem map_replace_self (distinct : (entries.map idOf).Nodup) {entry : α}
    (inside : entry ∈ entries) :
    (entries.map fun old => if idOf old = idOf entry then entry else old) = entries := by
  refine (List.map_congr_left fun old present => ?_).trans (List.map_id entries)
  by_cases same : idOf old = idOf entry
  · simp [List.inj_on_of_nodup_map distinct present inside same]
  · simp [same]

/-- Where ids are distinct, an entry is found under its id. -/
theorem find?_of_nodup (distinct : (entries.map idOf).Nodup) {entry : α}
    (inside : entry ∈ entries) : entries.find? (idOf · == idOf entry) = some entry := by
  have some : (entries.find? (idOf · == idOf entry)).isSome = true :=
    List.find?_isSome.mpr ⟨entry, inside, by simp⟩
  obtain ⟨other, found⟩ := Option.isSome_iff_exists.mp some
  have same : idOf other = idOf entry := by simpa using List.find?_some found
  rw [found, List.inj_on_of_nodup_map distinct (List.mem_of_find?_eq_some found) inside same]

/-- Of two entries that are put into one place, the second stays. -/
theorem map_replace_replace (idOf : α → String) {one two : α} (same : idOf two = idOf one) :
    ((entries.map fun old => if idOf old = idOf one then one else old).map
        fun old => if idOf old = idOf two then two else old) =
      entries.map fun old => if idOf old = idOf two then two else old := by
  rw [List.map_map]
  refine List.map_congr_left fun old _ => ?_
  by_cases replaced : idOf old = idOf one
  · simp [replaced, same]
  · simp [replaced]

end Entries

namespace Schema

variable {schema : Schema}

theorem HasDistinctIds.replaceModel_self (distinct : schema.HasDistinctIds) {model : Model}
    (inside : model ∈ schema.models) : schema.replaceModel model = schema := by
  rw [replaceModel, map_replace_self distinct.models inside]

theorem HasDistinctIds.replaceRelationship_self (distinct : schema.HasDistinctIds)
    {relationship : Relationship} (inside : relationship ∈ schema.relationships) :
    schema.replaceRelationship relationship = schema := by
  rw [replaceRelationship, map_replace_self distinct.relationships inside]

theorem HasDistinctIds.model?_of_mem (distinct : schema.HasDistinctIds) {model : Model}
    (inside : model ∈ schema.models) : schema.model? model.id = some model :=
  find?_of_nodup distinct.models inside

theorem HasDistinctIds.relationship?_of_mem (distinct : schema.HasDistinctIds)
    {relationship : Relationship} (inside : relationship ∈ schema.relationships) :
    schema.relationship? relationship.id = some relationship :=
  find?_of_nodup distinct.relationships inside

end Schema

/-! ## Updates -/

namespace Edit

variable {schema between last next : Schema} {newId id : String} {changes first second : Changes}
  {before validate : Bool}

/-- An update of a model that succeeds, with everything it depends on. -/
theorem apply_updateModel_iff :
    (updateModel id changes validate).apply schema newId = .ok next ↔
      ∃ old new, schema.model? id = some old ∧ (∀ change ∈ changes, change.1 ∈ Model.changeKeys) ∧
        Model.IsMerge changes old new ∧
        (Gate.forModel validate new).check schema.models = .ok () ∧
        next = schema.replaceModel new := by
  have keys : changes.unknownKeys Model.partKeys = [] ↔ _ :=
    (Changes.unknownKeys_eq_nil_iff Model.mem_changeKeys_iff).trans Changes.strayKeys_eq_nil_iff
  rw [apply_eq_ok_iff]
  constructor
  · rintro ⟨gate, proposed, opens⟩
    cases propose_eq_ok_iff.mp proposed with
    | updateModel _ found known read =>
      exact ⟨_, _, found, keys.mp known, Model.run_readChanges_eq_ok_iff.mp read, opens, rfl⟩
  · rintro ⟨old, new, found, known, merge, opens, rfl⟩
    have read := Model.run_readChanges_eq_ok_iff.mpr merge
    exact ⟨_, propose_eq_ok_iff.mpr (.updateModel validate found (keys.mpr known) read), opens⟩

/-- An update of a relationship that succeeds, with everything it depends on. -/
theorem apply_updateRelationship_iff :
    (updateRelationship id changes validate).apply schema newId = .ok next ↔
      ∃ old new, schema.relationship? id = some old ∧
        (∀ change ∈ changes, change.1 ∈ Relationship.changeKeys) ∧
        Relationship.IsMerge changes old new ∧
        (Gate.forRelationship validate new).check schema.models = .ok () ∧
        next = schema.replaceRelationship new := by
  have keys : changes.unknownKeys Relationship.partKeys = [] ↔ _ :=
    (Changes.unknownKeys_eq_nil_iff Relationship.mem_changeKeys_iff).trans
      Changes.strayKeys_eq_nil_iff
  rw [apply_eq_ok_iff]
  constructor
  · rintro ⟨gate, proposed, opens⟩
    cases propose_eq_ok_iff.mp proposed with
    | updateRelationship _ found known read =>
      exact ⟨_, _, found, keys.mp known, Relationship.run_readChanges_eq_ok_iff.mp read, opens, rfl⟩
  · rintro ⟨old, new, found, known, merge, opens, rfl⟩
    have read := Relationship.run_readChanges_eq_ok_iff.mpr merge
    exact ⟨_, propose_eq_ok_iff.mpr (.updateRelationship validate found (keys.mpr known) read),
      opens⟩

/-- Two updates of a model are one update with the changes of both. -/
theorem apply_updateModel_overriddenBy
    (made : (updateModel id first before).apply schema newId = .ok between)
    (madeToo : (updateModel id second validate).apply between newId = .ok last) :
    (updateModel id (first.overriddenBy Model.partKeys second) validate).apply schema newId =
      .ok last := by
  obtain ⟨old, model, found, known, merge, -, rfl⟩ := apply_updateModel_iff.mp made
  obtain ⟨other, new, foundToo, knownToo, mergeToo, opens, rfl⟩ := apply_updateModel_iff.mp madeToo
  have named : model.id = id := merge.id.trans (Schema.model?_eq_some found).2
  obtain rfl := Option.some.inj ((Schema.model?_replaceModel_self found named).symm.trans foundToo)
  refine apply_updateModel_iff.mpr ⟨old, new, found, Changes.forall_mem_overriddenBy known knownToo,
    merge.trans mergeToo, ?_, ?_⟩
  · rw [← opens]
    exact Gate.check_forModel _ _ _ _
  · rw [Schema.replaceModel, Schema.replaceModel, Schema.replaceModel,
      map_replace_replace Model.id mergeToo.id]

/-- Two updates of a relationship are one update with the changes of both. -/
theorem apply_updateRelationship_overriddenBy
    (made : (updateRelationship id first before).apply schema newId = .ok between)
    (madeToo : (updateRelationship id second validate).apply between newId = .ok last) :
    (updateRelationship id (first.overriddenBy Relationship.partKeys second) validate).apply schema
        newId = .ok last := by
  obtain ⟨old, relationship, found, known, merge, -, rfl⟩ := apply_updateRelationship_iff.mp made
  obtain ⟨other, new, foundToo, knownToo, mergeToo, opens, rfl⟩ :=
    apply_updateRelationship_iff.mp madeToo
  have named : relationship.id = id := merge.id.trans (Schema.relationship?_eq_some found).2
  obtain rfl := Option.some.inj
    ((Schema.relationship?_replaceRelationship_self found named).symm.trans foundToo)
  refine apply_updateRelationship_iff.mpr ⟨old, new, found,
    Changes.forall_mem_overriddenBy known knownToo, merge.trans mergeToo, opens, ?_⟩
  rw [Schema.replaceRelationship, Schema.replaceRelationship, Schema.replaceRelationship,
    map_replace_replace Relationship.id mergeToo.id]

end Edit

/-- Entities and their plain data, in either spelling of every key, are read as what they
describe. -/
structure ReadsDescriptions : Prop where
  fields : ∀ fields payloads, List.Forall₂ Field.IsDescribedBy fields payloads →
    readList .value (readField .value) (Payload.openEntities (.list payloads)) = .accept fields
  attributes : ∀ marks payloads, List.Forall₂ BlockAttribute.IsDescribedBy marks payloads →
    readList .value (readBlockAttribute .value) (Payload.openEntities (.list payloads)) =
      .accept marks
  cardinality : ∀ (cardinality : Cardinality) payload, cardinality.IsDescribedBy payload →
    readCardinality payload.openEntities = .accept cardinality
  clause : ∀ (clause : RelationClause) payload, clause.IsDescribedBy payload →
    readRelationClause .value payload.openEntities = .accept clause

theorem readsDescriptions : ReadsDescriptions where
  fields _ _ each := readFields_openEntities each
  attributes _ _ each := readBlockAttributes_openEntities each
  cardinality _ _ described := readCardinality_openEntities described
  clause _ _ described := readRelationClause_openEntities described

namespace Schema

open Edit

/-- Updates of the models of a schema: the merged data is read as the merge, which takes the place
of the model; no changes make no difference; two updates are one. -/
structure MergesModels (schema : Schema) (newId : String) (ids : FreshIds) : Prop where
  parsed : ∀ (old new : Model) (changes : Changes),
    (readModel ids .value (old.merged changes)).run = .ok new ↔ Model.IsMerge changes old new
  updated : ∀ old ∈ schema.models, ∀ (changes : Changes) (validate : Bool) (next : Schema),
    (updateModel old.id changes validate).apply schema newId = .ok next ↔
      (∀ change ∈ changes, change.1 ∈ Model.changeKeys) ∧
        ∃ new, Model.IsMerge changes old new ∧
          (Gate.forModel validate new).check schema.models = .ok () ∧
          next = schema.replaceModel new ∧ next.model? old.id = some new
  unchanged : ∀ old ∈ schema.models, (updateModel old.id [] false).apply schema newId = .ok schema ∧
    ∀ (validate : Bool) (next : Schema),
      (updateModel old.id [] validate).apply schema newId = .ok next → next = schema
  composed : ∀ (id : String) (first second : Changes) (before validate : Bool)
      (between last : Schema), (updateModel id first before).apply schema newId = .ok between →
    (updateModel id second validate).apply between newId = .ok last →
    (updateModel id (first.overriddenBy Model.partKeys second) validate).apply schema newId =
      .ok last

/-- Updates of the relationships of a schema, likewise. -/
structure MergesRelationships (schema : Schema) (newId : String) (ids : FreshIds) : Prop where
  parsed : ∀ (old new : Relationship) (changes : Changes),
    (readRelationship ids .value (old.merged changes)).run = .ok new ↔
      Relationship.IsMerge changes old new
  updated : ∀ old ∈ schema.relationships, ∀ (changes : Changes) (validate : Bool) (next : Schema),
    (updateRelationship old.id changes validate).apply schema newId = .ok next ↔
      (∀ change ∈ changes, change.1 ∈ Relationship.changeKeys) ∧
        ∃ new, Relationship.IsMerge changes old new ∧
          (Gate.forRelationship validate new).check schema.models = .ok () ∧
          next = schema.replaceRelationship new ∧ next.relationship? old.id = some new
  unchanged : ∀ old ∈ schema.relationships,
    (updateRelationship old.id [] false).apply schema newId = .ok schema ∧
      ∀ (validate : Bool) (next : Schema),
        (updateRelationship old.id [] validate).apply schema newId = .ok next → next = schema
  composed : ∀ (id : String) (first second : Changes) (before validate : Bool)
      (between last : Schema),
    (updateRelationship id first before).apply schema newId = .ok between →
    (updateRelationship id second validate).apply between newId = .ok last →
    (updateRelationship id (first.overriddenBy Relationship.partKeys second) validate).apply schema
      newId = .ok last

variable {schema : Schema}

theorem HasDistinctIds.mergesModels (distinct : schema.HasDistinctIds) (newId : String)
    (ids : FreshIds) : schema.MergesModels newId ids where
  parsed old new changes := by
    rw [old.readModel_merged ids changes]
    exact Model.run_readChanges_eq_ok_iff
  updated old inside changes validate next := by
    have found := distinct.model?_of_mem inside
    rw [apply_updateModel_iff]
    constructor
    · rintro ⟨_, new, foundToo, known, merge, opens, rfl⟩
      obtain rfl := Option.some.inj (found.symm.trans foundToo)
      exact ⟨known, new, merge, opens, rfl, model?_replaceModel_self found merge.id⟩
    · rintro ⟨known, new, merge, opens, made, -⟩
      exact ⟨old, new, found, known, merge, opens, made⟩
  unchanged old inside := by
    have found := distinct.model?_of_mem inside
    have same := (distinct.replaceModel_self inside).symm
    refine ⟨apply_updateModel_iff.mpr ⟨old, old, found, nofun, Model.isMerge_nil_iff.mpr rfl, rfl,
      same⟩, fun validate next made => ?_⟩
    obtain ⟨_, new, foundToo, -, merge, -, rfl⟩ := apply_updateModel_iff.mp made
    obtain rfl := Option.some.inj (found.symm.trans foundToo)
    rw [Model.isMerge_nil_iff.mp merge, ← same]
  composed _ _ _ _ _ _ _ made madeToo := apply_updateModel_overriddenBy made madeToo

theorem HasDistinctIds.mergesRelationships (distinct : schema.HasDistinctIds) (newId : String)
    (ids : FreshIds) : schema.MergesRelationships newId ids where
  parsed old new changes := by
    rw [old.readRelationship_merged ids changes]
    exact Relationship.run_readChanges_eq_ok_iff
  updated old inside changes validate next := by
    have found := distinct.relationship?_of_mem inside
    rw [apply_updateRelationship_iff]
    constructor
    · rintro ⟨_, new, foundToo, known, merge, opens, rfl⟩
      obtain rfl := Option.some.inj (found.symm.trans foundToo)
      exact ⟨known, new, merge, opens, rfl, relationship?_replaceRelationship_self found merge.id⟩
    · rintro ⟨known, new, merge, opens, made, -⟩
      exact ⟨old, new, found, known, merge, opens, made⟩
  unchanged old inside := by
    have found := distinct.relationship?_of_mem inside
    have same := (distinct.replaceRelationship_self inside).symm
    refine ⟨apply_updateRelationship_iff.mpr ⟨old, old, found, nofun,
      Relationship.isMerge_nil_iff.mpr rfl, rfl, same⟩, fun validate next made => ?_⟩
    obtain ⟨_, new, foundToo, -, merge, -, rfl⟩ := apply_updateRelationship_iff.mp made
    obtain rfl := Option.some.inj (found.symm.trans foundToo)
    rw [Relationship.isMerge_nil_iff.mp merge, ← same]
  composed _ _ _ _ _ _ _ made madeToo := apply_updateRelationship_overriddenBy made madeToo

/-- Where ids are distinct, updates put merges in place, and compose; whether an entity is given or
its plain data, and under which keys, makes no difference. -/
theorem merges_of_hasDistinctIds (distinct : schema.HasDistinctIds) (newId : String)
    (ids : FreshIds) :
    schema.MergesModels newId ids ∧ schema.MergesRelationships newId ids ∧ ReadsDescriptions :=
  ⟨distinct.mergesModels newId ids, distinct.mergesRelationships newId ids, readsDescriptions⟩

/-- A gauge with a default, and a pump that it belongs to. -/
def gaugeOfPump : Schema where
  models :=
    [⟨"m", "Gauge", [⟨"level", "Int", true, false, [], some (.integer 1)⟩], []⟩,
      ⟨"n", "Pump", [], []⟩]
  relationships := [⟨"r", "m", "n", .oneToMany, ⟨some .cascade, none, [⟨"level", "key"⟩]⟩⟩]

/-- The gauge takes another name and keeps its default. The later of two ends counts, whichever key
it is given under, and the relationship keeps its clause. -/
theorem merges_of_hasDistinctIds_gaugeOfPump :
    gaugeOfPump.HasDistinctIds ∧
      (∃ next, (updateModel "m" [("id", .text "x"), ("name", .text "Dial")] false).apply gaugeOfPump
          "" = .ok next ∧
        next.model? "m" =
          some ⟨"m", "Dial", [⟨"level", "Int", true, false, [], some (.integer 1)⟩], []⟩) ∧
      (updateRelationship "r" (Changes.overriddenBy Relationship.partKeys
          [("type", .text "ONE_TO_ONE"), ("toModel", .text "n")] [("to_model", .text "m")])
        false).apply gaugeOfPump "" =
          .ok (gaugeOfPump.replaceRelationship
            ⟨"r", "m", "m", .oneToOne, ⟨some .cascade, none, [⟨"level", "key"⟩]⟩⟩) := by
  have distinct : gaugeOfPump.HasDistinctIds := by constructor <;> decide
  obtain ⟨models, relationships, -⟩ := merges_of_hasDistinctIds distinct "" fun _ => "new"
  refine ⟨distinct, ?_, ?_⟩
  · let changes : Changes := [("id", .text "x"), ("name", .text "Dial")]
    have split : changes = [("id", .text "x")] ++ [("name", .text "Dial")] := rfl
    have merge : Model.IsMerge changes
        ⟨"m", "Gauge", [⟨"level", "Int", true, false, [], some (.integer 1)⟩], []⟩
        ⟨"m", "Dial", [⟨"level", "Int", true, false, [], some (.integer 1)⟩], []⟩ :=
      ⟨rfl, .changed split (.inl rfl) nofun rfl, .kept (by decide), .kept (by decide)⟩
    exact ⟨_, (models.updated _ List.mem_cons_self _ _ _).mpr
      ⟨by decide, _, merge, rfl, rfl, by decide⟩, by decide⟩
  · exact relationships.composed "r" [("type", .text "ONE_TO_ONE"), ("toModel", .text "n")]
      [("to_model", .text "m")] false false
      (gaugeOfPump.replaceRelationship
        ⟨"r", "m", "n", .oneToOne, ⟨some .cascade, none, [⟨"level", "key"⟩]⟩⟩)
      _ (by decide +kernel) (by decide +kernel)

end Schema

end SchemaDesk
