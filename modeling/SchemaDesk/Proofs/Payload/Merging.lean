import SchemaDesk.Proofs.Payload.Description

/-!
# Merging changes into an entity

Changes are merged into the plain data of an entity: the parts that they name
are put in under the plain keys, and the id is put back. Reading the merged
data is the same as reading each change and keeping all other parts.
-/

namespace SchemaDesk

open Reading

namespace Changes

/-- The last change of a part counts. -/
theorem part?_cons (name : String) (payload : Payload) (rest : Changes) (key : PartKey) :
    part? ((name, payload) :: rest) key =
      (part? rest key).or (if key.Names name then some payload.openEntities else none) := by
  rw [part?]
  cases part? rest key <;> rfl

/-- The changes of parts, under the plain keys and with entities taken apart. -/
def normalized (known : List PartKey) (changes : Changes) : Members :=
  changes.filterMap fun change =>
    (known.find? fun key => key.Names change.1).map fun key => (key.plain, change.2.openEntities)

theorem normalized_cons (known : List PartKey) (name : String) (payload : Payload)
    (rest : Changes) :
    normalized known ((name, payload) :: rest) =
      match known.find? fun key => key.Names name with
      | some key => (key.plain, payload.openEntities) :: normalized known rest
      | none => normalized known rest := by
  rw [normalized, List.filterMap_cons]
  cases known.find? fun key => key.Names name <;> rfl

end Changes

/-- The plain data of an entity with the changes merged into it. -/
def mergedMembers (parts : Parts) (known : List PartKey) (changes : Changes) (id : String) :
    Members :=
  parts.spelled PartKey.plain ++ changes.normalized known ++ [("id", .text id)]

namespace Model

/-- The parts of a model. -/
def parts (model : Model) : Parts :=
  [(.only "id", .text model.id), (.only "name", .text model.name),
    (.only "fields", .list (model.fields.map Payload.ofField)),
    (.only "attributes", .list (model.attributes.map Payload.ofBlockAttribute))]

theorem keys_parts (model : Model) : model.parts.map (·.1) = .only "id" :: partKeys := rfl

/-- The model with the changes merged into its plain data, before it is checked. -/
def merged (model : Model) (changes : Changes) : Payload :=
  .object (mergedMembers model.parts partKeys changes model.id)

end Model

namespace Relationship

/-- The parts of a relationship. -/
def parts (relationship : Relationship) : Parts :=
  [(.only "id", .text relationship.id), (.fromModel, .text relationship.source),
    (.toModel, .text relationship.target),
    (.only "type", .leaf (.cardinality relationship.cardinality)),
    (.only "config", Payload.ofRelationClause relationship.clause)]

theorem keys_parts (relationship : Relationship) :
    relationship.parts.map (·.1) = .only "id" :: partKeys := rfl

/-- The relationship with the changes merged into its plain data, before it is checked. -/
def merged (relationship : Relationship) (changes : Changes) : Payload :=
  .object (mergedMembers relationship.parts partKeys changes relationship.id)

end Relationship

/-! ## What is found in the merged data -/

section Merged

variable {parts : Parts} {known : List PartKey} {changes : Changes} {id : String} {key : PartKey}

/-- A normalized change is found under the plain key of the part that the change names. -/
theorem member?_normalized (apart : known.Pairwise PartKey.Apart) (listed : key ∈ known) :
    Json.member? (changes.normalized known) key.plain = changes.part? key := by
  induction changes with
  | nil => rfl
  | cons change rest ih =>
    obtain ⟨name, payload⟩ := change
    rw [Changes.part?_cons, Changes.normalized_cons, ← ih]
    cases found : known.find? fun key => key.Names name with
    | none =>
      have unnamed : ¬ key.Names name := by simpa using List.find?_eq_none.mp found key listed
      simp [unnamed]
    | some other =>
      have named : other.Names name := by simpa using List.find?_some found
      have one : other.plain = key.plain ↔ key.Names name := by
        constructor
        · intro same
          rwa [← PartKey.eq_of_names apart (List.mem_of_find?_eq_some found) listed (.inr rfl)
            (.inr same)]
        · intro namedToo
          rw [PartKey.eq_of_names apart (List.mem_of_find?_eq_some found) listed named namedToo]
      simp [Json.member?_cons, one]

/-- All keys in the merged data are plain. -/
theorem exists_plain_of_mem_mergedMembers (keys : parts.map (·.1) = .only "id" :: known)
    {name : String} (listed : name ∈ (mergedMembers parts known changes id).map (·.1)) :
    ∃ other ∈ PartKey.only "id" :: known, name = other.plain := by
  simp only [mergedMembers, List.map_append, List.mem_append, List.mem_map] at listed
  rcases listed with (⟨_, member, rfl⟩ | ⟨_, member, rfl⟩) | ⟨_, member, rfl⟩
  · obtain ⟨part, inside, rfl⟩ := List.mem_map.mp member
    exact ⟨part.1, keys ▸ List.mem_map_of_mem inside, rfl⟩
  · obtain ⟨change, -, named⟩ := List.mem_filterMap.mp member
    obtain ⟨other, found, rfl⟩ := Option.map_eq_some_iff.mp named
    exact ⟨other, List.mem_cons_of_mem _ (List.mem_of_find?_eq_some found), rfl⟩
  · obtain rfl := List.mem_singleton.mp member
    exact ⟨.only "id", List.mem_cons_self, rfl⟩

/-- The merged data has the change of a part, or the part as it was. -/
theorem part?_mergedMembers (keys : parts.map (·.1) = .only "id" :: known)
    (apart : (PartKey.only "id" :: known).Pairwise PartKey.Apart) {payload : Payload}
    (inside : (key, payload) ∈ parts) (listed : key ∈ known) :
    part? (mergedMembers parts known changes id) key =
      some (key.plain, (changes.part? key).getD payload) := by
  refine part?_of_names ?_ (.inr rfl) ?_
  · have other : "id" ≠ key.plain := fun same =>
      (List.pairwise_cons.mp apart).1 key listed "id" (.inl rfl) (.inr same)
    have old := member?_spelled PartKey.isSpelling_plain (keys ▸ apart) inside
    rw [mergedMembers, Json.member?_append, Json.member?_append, old,
      member?_normalized (List.pairwise_cons.mp apart).2 listed]
    cases changes.part? key <;> simp [Json.member?, other]
  · intro name member named
    obtain ⟨other, inside, rfl⟩ := exists_plain_of_mem_mergedMembers keys member
    rw [PartKey.eq_of_names apart inside (List.mem_cons_of_mem _ listed) (.inr rfl) named]

theorem part?_id_mergedMembers :
    part? (mergedMembers parts known changes id) (.only "id") = some ("id", .text id) := by
  have found : Json.member? (mergedMembers parts known changes id) "id" = some (.text id) :=
    Json.member?_append_self _ _ _
  simp [part?, PartKey.only, found]

/-- A part of the merged data is read as the change of the part. -/
theorem readPart_mergedMembers (changes : Changes) (id : String) {α : Type}
    {read : Payload → Reading α} {current : α} (keys : parts.map (·.1) = .only "id" :: known)
    (apart : (PartKey.only "id" :: known).Pairwise PartKey.Apart) {payload : Payload}
    (inside : (key, payload) ∈ parts) (listed : key ∈ known)
    (accepted : read payload = accept current) (absent : Reading α) :
    readPart (mergedMembers parts known changes id) key read absent =
      changes.readPart key read current := by
  rw [readPart, part?_mergedMembers keys apart inside listed, Changes.readPart]
  cases changes.part? key with
  | none => simp [accepted]
  | some change => rfl

end Merged

/-- Reading a model from the merged data is reading the changes. -/
theorem Model.readModel_merged (ids : FreshIds) (model : Model) (changes : Changes) :
    readModel ids .value (model.merged changes) = model.readChanges changes := by
  have part {α : Type} (key : PartKey) {payload : Payload} {read : Payload → Reading α}
      {current : α} (accepted : read payload = accept current)
      (inside : (key, payload) ∈ model.parts) (listed : key ∈ partKeys) (absent : Reading α) :=
    readPart_mergedMembers changes model.id model.keys_parts (by decide) inside listed accepted
      absent
  have ofName : readText (.text model.name) = accept model.name := rfl
  have ofFields : readList .value (readField .value) (.list (model.fields.map Payload.ofField)) =
      accept model.fields :=
    readList_of_forall₂ (List.forall₂_map_right_iff.mpr (List.forall₂_same.mpr fun field _ =>
      field.isDescribedBy_ofField.read .value))
  have ofMarks : readList .value (readBlockAttribute .value)
      (.list (model.attributes.map Payload.ofBlockAttribute)) = accept model.attributes :=
    readList_of_forall₂ (List.forall₂_map_right_iff.mpr (List.forall₂_same.mpr fun mark _ =>
      mark.isDescribedBy_ofBlockAttribute.read .value))
  have name := part (.only "name") ofName (by simp [parts]) (by decide)
  have fields := part (.only "fields") ofFields (by simp [parts]) (by decide)
  have marks := part (.only "attributes") ofMarks (by simp [parts]) (by decide)
  simp only [merged, readModel, readRequired, name, fields, marks]
  rw [readPart, part?_id_mergedMembers]
  rfl

/-- Reading a relationship from the merged data is reading the changes. -/
theorem Relationship.readRelationship_merged (ids : FreshIds) (relationship : Relationship)
    (changes : Changes) :
    readRelationship ids .value (relationship.merged changes) =
      relationship.readChanges changes := by
  have part {α : Type} (key : PartKey) {payload : Payload} {read : Payload → Reading α}
      {current : α} (accepted : read payload = accept current)
      (inside : (key, payload) ∈ relationship.parts) (listed : key ∈ partKeys)
      (absent : Reading α) :=
    readPart_mergedMembers changes relationship.id relationship.keys_parts (by decide) inside listed
      accepted absent
  have ofSource : readText (.text relationship.source) = accept relationship.source := rfl
  have ofTarget : readText (.text relationship.target) = accept relationship.target := rfl
  have ofCardinality : readCardinality (.leaf (.cardinality relationship.cardinality)) =
      accept relationship.cardinality := rfl
  have ofClause := relationship.clause.isDescribedBy_ofRelationClause.read .value
  have source := part .fromModel ofSource (by simp [parts]) (by decide)
  have target := part .toModel ofTarget (by simp [parts]) (by decide)
  have cardinality := part (.only "type") ofCardinality (by simp [parts]) (by decide)
  have clause := part (.only "config") ofClause (by simp [parts]) (by decide)
  simp only [merged, readRelationship, readRequired, source, target, cardinality, clause]
  rw [readPart, part?_id_mergedMembers]
  rfl

end SchemaDesk
