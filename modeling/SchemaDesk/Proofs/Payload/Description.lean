import Mathlib.Data.List.Forall2
import Mathlib.Data.List.Pairwise
import SchemaDesk.Proofs.Payload.Reading

/-!
# Entities and their plain data

The plain data of an entity is an object with a member for each of its parts,
under one of the two keys of the part. It is read as the entity, whichever keys
were chosen, and so is the entity itself.
-/

namespace SchemaDesk

open Reading

namespace Json

variable {β : Type}

theorem member?_cons (name : String) (value : β) (rest : List (String × β)) (key : String) :
    member? ((name, value) :: rest) key =
      (member? rest key).or (if name = key then some value else none) := by
  rw [member?]
  cases member? rest key <;> rfl

/-- Of the members of two objects, those of the second hide those of the first. -/
theorem member?_append (members others : List (String × β)) (key : String) :
    member? (members ++ others) key = (member? others key).or (member? members key) := by
  induction members with
  | nil => simp [member?]
  | cons head rest ih => rw [List.cons_append, member?_cons, ih, member?_cons, Option.or_assoc]

/-- What is found is a member. -/
theorem mem_of_member? {members : List (String × β)} {key : String} {value : β}
    (found : member? members key = some value) : (key, value) ∈ members := by
  induction members with
  | nil => cases found
  | cons head rest ih =>
    rw [member?_cons, Option.or_eq_some_iff] at found
    rcases found with later | ⟨-, here⟩
    · exact List.mem_cons_of_mem _ (ih later)
    · split at here
      · next same =>
        cases here
        exact same ▸ List.mem_cons_self
      · cases here

/-- Where keys are distinct, every member is found. -/
theorem member?_of_nodup {members : List (String × β)} (distinct : (members.map (·.1)).Nodup)
    {key : String} {value : β} (inside : (key, value) ∈ members) :
    member? members key = some value := by
  induction members with
  | nil => cases inside
  | cons head rest ih =>
    obtain ⟨name, first⟩ := head
    rw [List.map_cons, List.nodup_cons] at distinct
    rw [member?_cons]
    rcases List.mem_cons.mp inside with here | inside
    · cases here
      simp [member?_eq_none_of_not_mem rest _ distinct.1]
    · simp [ih distinct.2 inside]

end Json

/-! ## Keys -/

namespace PartKey

/-- The name is one of the two keys. -/
def Names (key : PartKey) (name : String) : Prop :=
  name = key.saved ∨ name = key.plain

instance (key : PartKey) : DecidablePred key.Names :=
  fun _ => inferInstanceAs (Decidable (_ ∨ _))

/-- No name is a key of both parts. -/
def Apart (first second : PartKey) : Prop :=
  ∀ name, first.Names name → ¬ second.Names name

theorem apart_iff {first second : PartKey} :
    first.Apart second ↔ ¬ second.Names first.saved ∧ ¬ second.Names first.plain := by
  simp [Apart, Names]

instance (first second : PartKey) : Decidable (first.Apart second) :=
  decidable_of_iff _ apart_iff.symm

instance : Std.Symm Apart :=
  ⟨fun _ _ apart name named namedToo => apart name namedToo named⟩

/-- Of parts without common keys, a name names at most one. -/
theorem eq_of_names {keys : List PartKey} (apart : keys.Pairwise Apart) {first second : PartKey}
    (inside : first ∈ keys) (insideToo : second ∈ keys) {name : String} (named : first.Names name)
    (namedToo : second.Names name) : first = second := by
  by_cases same : first = second
  · exact same
  · have other := apart.forall inside insideToo same
    exact absurd namedToo (other name named)

/-- A choice of one of its keys for every part. -/
def IsSpelling (spell : PartKey → String) : Prop :=
  ∀ key : PartKey, key.Names (spell key)

theorem isSpelling_plain : IsSpelling plain := fun _ => .inr rfl

end PartKey

/-! ## Objects with chosen keys -/

/-- Parts of an entity with the payloads that describe them. -/
abbrev Parts := List (PartKey × Payload)

/-- The members of an object that holds the parts under the chosen keys. -/
def Parts.spelled (spell : PartKey → String) (parts : Parts) : Members :=
  parts.map fun part => (spell part.1, part.2)

section Spelled

variable {spell : PartKey → String} {parts : Parts}

theorem member?_spelled (spelling : PartKey.IsSpelling spell)
    (apart : (parts.map (·.1)).Pairwise PartKey.Apart) {key : PartKey} {payload : Payload}
    (inside : (key, payload) ∈ parts) :
    Json.member? (parts.spelled spell) (spell key) = some payload := by
  refine Json.member?_of_nodup ?_
    (List.mem_map_of_mem (f := fun part => (spell part.1, part.2)) inside)
  rw [Parts.spelled, List.map_map, List.Nodup, List.pairwise_map]
  refine (List.pairwise_map.mp apart).imp fun {first second} apart same => ?_
  have named : second.1.Names (spell first.1) := (show spell first.1 = _ from same) ▸ spelling _
  exact apart _ (spelling first.1) named

/-- A part is found under the one key that it has been given. -/
theorem part?_of_names {members : Members} {key : PartKey} {used : String} {payload : Payload}
    (found : Json.member? members used = some payload) (named : key.Names used)
    (single : ∀ name ∈ members.map (·.1), key.Names name → name = used) :
    part? members key = some (used, payload) := by
  by_cases saved : used = key.saved
  · rw [part?, ← saved, found]
  · have absent : Json.member? members key.saved = none :=
      Json.member?_eq_none_of_not_mem _ _ fun listed => saved (single _ listed (.inl rfl)).symm
    rw [part?, absent, ← named.resolve_left saved, found]
    rfl

/-- Every part is found under the key that was chosen for it. -/
theorem part?_spelled (spelling : PartKey.IsSpelling spell)
    (apart : (parts.map (·.1)).Pairwise PartKey.Apart) :
    parts.Forall fun part => part? (parts.spelled spell) part.1 = some (spell part.1, part.2) := by
  refine List.forall_iff_forall_mem.mpr fun ⟨key, payload⟩ inside => ?_
  refine part?_of_names (member?_spelled spelling apart inside) (spelling key) ?_
  intro name present named
  obtain ⟨_, member, rfl⟩ := List.mem_map.mp present
  obtain ⟨part, listed, rfl⟩ := List.mem_map.mp member
  have one : key = part.1 := PartKey.eq_of_names apart (List.mem_map_of_mem inside)
    (List.mem_map_of_mem listed) named (spelling part.1)
  rw [one]

end Spelled

/-! ## Plain data -/

namespace Field

/-- The parts of a field. -/
def parts (field : Field) : Parts :=
  [(.only "name", .text field.name), (.only "type", .text field.type),
    (.isRequired, .boolean field.isRequired), (.isList, .boolean field.isList),
    (.only "attributes", .list (field.attributes.map Payload.ofText)),
    (.defaultValue, Payload.ofOption Payload.ofDefault field.default?)]

/-- The payload is the field, or plain data of it. -/
inductive IsDescribedBy (field : Field) : Payload → Prop
  | entity : IsDescribedBy field (.leaf (.field field))
  | data {spell : PartKey → String} (spelling : PartKey.IsSpelling spell) :
      IsDescribedBy field (.object (field.parts.spelled spell))

end Field

namespace BlockAttribute

/-- The parts of a block attribute. -/
def parts (mark : BlockAttribute) : Parts :=
  [(.only "name", .text mark.name),
    (.only "value", Payload.ofOption Payload.ofText mark.value?)]

/-- The payload is the attribute, or plain data of it. -/
inductive IsDescribedBy (mark : BlockAttribute) : Payload → Prop
  | entity : IsDescribedBy mark (.leaf (.blockAttribute mark))
  | data {spell : PartKey → String} (spelling : PartKey.IsSpelling spell) :
      IsDescribedBy mark (.object (mark.parts.spelled spell))

end BlockAttribute

namespace FieldMapping

/-- The parts of a mapping. -/
def parts (mapping : FieldMapping) : Parts :=
  [(.fieldName, .text mapping.fieldName), (.referencedField, .text mapping.referencedField)]

/-- The payload is the mapping, or plain data of it. -/
inductive IsDescribedBy (mapping : FieldMapping) : Payload → Prop
  | entity : IsDescribedBy mapping (.leaf (.fieldMapping mapping))
  | data {spell : PartKey → String} (spelling : PartKey.IsSpelling spell) :
      IsDescribedBy mapping (.object (mapping.parts.spelled spell))

end FieldMapping

namespace RelationClause

/-- The parts of a clause, with the given payloads for its mappings. -/
def parts (clause : RelationClause) (mappings : List Payload) : Parts :=
  [(.onDelete, Payload.ofOption Payload.ofAction clause.onDelete?),
    (.onUpdate, Payload.ofOption Payload.ofAction clause.onUpdate?),
    (.only "fields", .list mappings)]

/-- The payload is the clause, or plain data of it in which every mapping is described. -/
inductive IsDescribedBy (clause : RelationClause) : Payload → Prop
  | entity : IsDescribedBy clause (.leaf (.relationClause clause))
  | data {spell : PartKey → String} {mappings : List Payload}
      (spelling : PartKey.IsSpelling spell)
      (each : List.Forall₂ FieldMapping.IsDescribedBy clause.mappings mappings) :
      IsDescribedBy clause (.object ((clause.parts mappings).spelled spell))

end RelationClause

/-- The payload is the cardinality, or its name. -/
inductive Cardinality.IsDescribedBy (cardinality : Cardinality) : Payload → Prop
  | entity : IsDescribedBy cardinality (.leaf (.cardinality cardinality))
  | data : IsDescribedBy cardinality (.text cardinality.name)

/-! ## Reading descriptions -/

/-- Items that are accepted one by one are accepted as a list. -/
theorem readList_of_forall₂ {α : Type} {source : Source} {read : Payload → Reading α}
    {values : List α} {payloads : List Payload}
    (each : List.Forall₂ (fun value payload => read payload = accept value) values payloads) :
    readList source read (.list payloads) = accept values := by
  have items (position : Nat) : Reading.items read position payloads = accept values := by
    induction each generalizing position with
    | nil => rfl
    | cons here _ ih =>
      rw [Reading.items, here, ih]
      rfl
  exact items 0

theorem readDefault?_ofDefault (default? : Option DefaultValue) :
    readDefault? (Payload.ofOption Payload.ofDefault default?) = accept default? := by
  match default? with
  | none | some (.boolean _) | some (.integer _) | some (.float _) | some (.text _) => rfl

theorem readText?_ofText (text? : Option String) :
    readText? (Payload.ofOption Payload.ofText text?) = accept text? := by
  cases text? <;> rfl

theorem readAction?_ofAction (action? : Option ReferentialAction) :
    readAction? (Payload.ofOption Payload.ofAction action?) = accept action? := by
  match action? with
  | none => rfl
  | some action => cases action <;> rfl

theorem Cardinality.IsDescribedBy.read {cardinality : Cardinality} {payload : Payload}
    (described : cardinality.IsDescribedBy payload) :
    readCardinality payload = accept cardinality := by
  cases described with
  | entity => rfl
  | data => cases cardinality <;> rfl

theorem Field.IsDescribedBy.read {field : Field} {payload : Payload}
    (described : field.IsDescribedBy payload) (source : Source) :
    readField source payload = accept field := by
  cases described with
  | entity => rfl
  | data spelling =>
    have apart : (field.parts.map (·.1)).Pairwise PartKey.Apart := by
      simp only [Field.parts, List.map_cons, List.map_nil]
      decide
    obtain ⟨name, type, isRequired, isList, tokens, default⟩ := part?_spelled spelling apart
    simp only [List.Forall] at default
    have attributes : readList source readText (.list (field.attributes.map Payload.ofText)) =
        accept field.attributes :=
      readList_of_forall₂ (List.forall₂_map_right_iff.mpr (List.forall₂_same.mpr fun _ _ => rfl))
    simp [readField, readRequired, readPart, name, type, isRequired, isList, tokens, default,
      readText, readFlag, attributes, readDefault?_ofDefault]

theorem BlockAttribute.IsDescribedBy.read {mark : BlockAttribute} {payload : Payload}
    (described : mark.IsDescribedBy payload) (source : Source) :
    readBlockAttribute source payload = accept mark := by
  cases described with
  | entity => rfl
  | data spelling =>
    have apart : (mark.parts.map (·.1)).Pairwise PartKey.Apart := by
      simp only [BlockAttribute.parts, List.map_cons, List.map_nil]
      decide
    obtain ⟨name, value⟩ := part?_spelled spelling apart
    simp only [List.Forall] at value
    simp [readBlockAttribute, readRequired, readPart, name, value, readText, readText?_ofText]

theorem FieldMapping.IsDescribedBy.read {mapping : FieldMapping} {payload : Payload}
    (described : mapping.IsDescribedBy payload) (source : Source) :
    readFieldMapping source payload = accept mapping := by
  cases described with
  | entity => rfl
  | data spelling =>
    have apart : (mapping.parts.map (·.1)).Pairwise PartKey.Apart := by
      simp only [FieldMapping.parts, List.map_cons, List.map_nil]
      decide
    obtain ⟨fieldName, referencedField⟩ := part?_spelled spelling apart
    simp only [List.Forall] at referencedField
    simp [readFieldMapping, readRequired, readPart, fieldName, referencedField, readText]

theorem RelationClause.IsDescribedBy.read {clause : RelationClause} {payload : Payload}
    (described : clause.IsDescribedBy payload) (source : Source) :
    readRelationClause source payload = accept clause := by
  cases described with
  | entity => rfl
  | @data spell mappings spelling each =>
    have apart : ((clause.parts mappings).map (·.1)).Pairwise PartKey.Apart := by
      simp only [RelationClause.parts, List.map_cons, List.map_nil]
      decide
    obtain ⟨onDelete, onUpdate, fields⟩ := part?_spelled spelling apart
    simp only [List.Forall] at fields
    have list : readList source (readFieldMapping source) (.list mappings) =
        accept clause.mappings :=
      readList_of_forall₂ (each.imp fun _ _ described => described.read source)
    simp [readRelationClause, readPart, onDelete, onUpdate, fields, list, readAction?_ofAction]

/-! ## Taking entities apart -/

namespace Payload

theorem ofField_eq (field : Field) : ofField field = .object (field.parts.spelled PartKey.plain) :=
  rfl

theorem ofBlockAttribute_eq (mark : BlockAttribute) :
    ofBlockAttribute mark = .object (mark.parts.spelled PartKey.plain) := rfl

theorem ofFieldMapping_eq (mapping : FieldMapping) :
    ofFieldMapping mapping = .object (mapping.parts.spelled PartKey.plain) := rfl

theorem ofRelationClause_eq (clause : RelationClause) :
    ofRelationClause clause =
      .object ((clause.parts (clause.mappings.map ofFieldMapping)).spelled PartKey.plain) := rfl

end Payload

theorem Field.isDescribedBy_ofField (field : Field) :
    field.IsDescribedBy (Payload.ofField field) :=
  Payload.ofField_eq field ▸ .data PartKey.isSpelling_plain

theorem BlockAttribute.isDescribedBy_ofBlockAttribute (mark : BlockAttribute) :
    mark.IsDescribedBy (Payload.ofBlockAttribute mark) :=
  Payload.ofBlockAttribute_eq mark ▸ .data PartKey.isSpelling_plain

theorem RelationClause.isDescribedBy_ofRelationClause (clause : RelationClause) :
    clause.IsDescribedBy (Payload.ofRelationClause clause) := by
  have each : List.Forall₂ FieldMapping.IsDescribedBy clause.mappings
      (clause.mappings.map Payload.ofFieldMapping) :=
    List.forall₂_map_right_iff.mpr (List.forall₂_same.mpr fun mapping _ =>
      Payload.ofFieldMapping_eq mapping ▸ .data PartKey.isSpelling_plain)
  exact Payload.ofRelationClause_eq clause ▸ .data PartKey.isSpelling_plain each

/-- A field is described as well when it is taken apart. -/
theorem Field.IsDescribedBy.openEntity {field : Field} {payload : Payload}
    (described : field.IsDescribedBy payload) : field.IsDescribedBy payload.openEntity := by
  cases described with
  | entity => exact field.isDescribedBy_ofField
  | data spelling => exact .data spelling

/-- A block attribute is described as well when it is taken apart. -/
theorem BlockAttribute.IsDescribedBy.openEntity {mark : BlockAttribute} {payload : Payload}
    (described : mark.IsDescribedBy payload) : mark.IsDescribedBy payload.openEntity := by
  cases described with
  | entity => exact mark.isDescribedBy_ofBlockAttribute
  | data spelling => exact .data spelling

section Opened

variable {source : Source}

theorem readFields_openEntities {fields : List Field} {payloads : List Payload}
    (each : List.Forall₂ Field.IsDescribedBy fields payloads) :
    readList source (readField source) (Payload.openEntities (.list payloads)) = accept fields :=
  readList_of_forall₂ (List.forall₂_map_right_iff.mpr
    (each.imp fun _ _ described => described.openEntity.read source))

theorem readBlockAttributes_openEntities {marks : List BlockAttribute} {payloads : List Payload}
    (each : List.Forall₂ BlockAttribute.IsDescribedBy marks payloads) :
    readList source (readBlockAttribute source) (Payload.openEntities (.list payloads)) =
      accept marks :=
  readList_of_forall₂ (List.forall₂_map_right_iff.mpr
    (each.imp fun _ _ described => described.openEntity.read source))

theorem readRelationClause_openEntities {clause : RelationClause} {payload : Payload}
    (described : clause.IsDescribedBy payload) :
    readRelationClause source payload.openEntities = accept clause := by
  cases described with
  | entity => exact clause.isDescribedBy_ofRelationClause.read source
  | data spelling each => exact (RelationClause.IsDescribedBy.data spelling each).read source

theorem readCardinality_openEntities {cardinality : Cardinality} {payload : Payload}
    (described : cardinality.IsDescribedBy payload) :
    readCardinality payload.openEntities = accept cardinality := by
  cases described with
  | entity => exact Cardinality.IsDescribedBy.entity.read
  | data => exact Cardinality.IsDescribedBy.data.read

end Opened

end SchemaDesk
