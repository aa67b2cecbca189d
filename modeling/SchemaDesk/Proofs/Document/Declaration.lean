import SchemaDesk.Proofs.Document.Reading
import SchemaDesk.Proofs.Edit.Effect

/-!
# Where the types of relations are declared

The type of a relation member is the name of a model, and a model block declares
the name of its model and no other. So in the document of a valid schema every
such type is declared, as often as there are models of that name. Nothing
requires the models of a schema to have different names or different ids: where
names are distinct, each type is declared once, and where ids are distinct, the
first model with an id is the last one too.
-/

namespace SchemaDesk

/-- Naming leaves the types of members as they are. -/
theorem map_type_nameMembers (taken : List String) (members : List RelationMember) :
    (nameMembers taken members).map (·.type) = members.map (·.type) := by
  induction members generalizing taken with
  | nil => rfl
  | cons member members ih => simp [nameMembers, ih]

/-- The type of a relation member is the name under one end of a relationship. -/
theorem Model.exists_end_of_mem_relationMembers {model : Model}
    {relationships : List Relationship} {names : NameTable} {member : RelationMember}
    (listed : member ∈ model.relationMembers relationships names) :
    ∃ relationship ∈ relationships, ∃ id, relationship.involves id = true ∧
      member.type = names.nameOf id := by
  have named := List.mem_map_of_mem (f := RelationMember.type) listed
  rw [relationMembers, map_type_nameMembers] at named
  obtain ⟨wished, listed, same⟩ := List.mem_map.mp named
  rw [← same]
  rcases List.mem_append.mp listed with owning | inverse
  · obtain ⟨relationship, owned, mapped⟩ := List.mem_flatMap.mp owning
    obtain ⟨mapping, -, rfl⟩ := List.mem_map.mp mapped
    refine ⟨relationship, List.mem_of_mem_filter owned, relationship.target, ?_, rfl⟩
    exact (relationship.involves_iff _).mpr (.inr rfl)
  · obtain ⟨relationship, incoming, rfl⟩ := List.mem_map.mp inverse
    refine ⟨relationship, List.mem_of_mem_filter incoming, relationship.source, ?_, rfl⟩
    exact (relationship.involves_iff _).mpr (.inl rfl)

namespace Document

/-- The block with these lines declares a model of the name. -/
def Declares (lines : List String) (name : String) : Prop :=
  "model " ++ name ++ " \x7b" ∈ lines

instance (lines : List String) (name : String) : Decidable (Declares lines name) :=
  inferInstanceAs (Decidable (_ ∈ _))

/-- How many model blocks of the document declare a model of the name. -/
def declarations (schema : Schema) (name : String) : Nat :=
  schema.models.countP fun model => Declares (modelLines model (schema.membersOf model)) name

/-- Of the lines of a block, only the header starts with an `m`. -/
theorem eq_headerLine_of_start {model : Model} {members : List RelationMember}
    (acceptable : model.IsAcceptable) : ∀ line ∈ bodyLines model members,
      line.toList.head? = some 'm' → line = headerLine model := by
  refine forall_mem_bodyLines ?_ ?_ (fun _ => rfl) ?_ ?_
  · intro start
    cases start
  · intro mark inside start
    obtain ⟨kind, known⟩ := acceptable.exists_kind inside
    rw [BlockAttribute.toList_render, List.head?_append,
      (BlockAttribute.plain_name known).1] at start
    cases start
  · intro field _ start
    rw [Field.toList_fieldLine] at start
    cases start
  · intro member _ start
    obtain ⟨rest, rendered⟩ := member.exists_toList_render
    rw [rendered] at start
    cases start

/-- The block of an accepted model declares the name of the model and no other. -/
theorem declares_modelLines_iff {model : Model} {members : List RelationMember} {name : String}
    (acceptable : model.IsAcceptable) :
    Declares (modelLines model members) name ↔ model.name = name := by
  rw [Declares, modelLines_eq_bodyLines, List.mem_append, List.mem_singleton]
  constructor
  · rintro (inside | closing)
    · have same := eq_headerLine_of_start acceptable _ inside (by simp)
      exact ((String.append_right_inj _).mp ((String.append_left_inj _).mp same)).symm
    · have start := congrArg (·.toList.head?) closing
      simp at start
  · rintro rfl
    simp [bodyLines, headerLine]

/-- A name is declared as often as there are models that have it. -/
theorem declarations_eq_count {schema : Schema} (valid : schema.IsValid) (name : String) :
    declarations schema name = (schema.models.map (·.name)).count name := by
  rw [List.count, List.countP_map]
  refine List.countP_congr fun model inside => ?_
  simp [declares_modelLines_iff (valid.isAcceptable_of_mem inside)]

end Document

namespace Schema

/-- In a valid schema the type of a relation member is the name of a model. -/
theorem IsValid.type_mem_names {schema : Schema} (valid : schema.IsValid) {model : Model}
    {member : RelationMember} (listed : member ∈ schema.membersOf model) :
    member.type ∈ schema.models.map (·.name) := by
  obtain ⟨relationship, inside, id, ending, named⟩ :=
    Model.exists_end_of_mem_relationMembers listed
  obtain ⟨sound, -⟩ := (isValid_iff.mp valid).2 relationship inside
  have present : id ∈ schema.models.map (·.id) := by
    rcases (relationship.involves_iff id).mp ending with rfl | rfl
    · exact sound.source
    · exact sound.target
  obtain ⟨found, resolved⟩ :=
    Option.isSome_iff_exists.mp ((resolve?_isSome_iff schema.models id).mpr present)
  rw [named, nameOf_nameTable, resolved]
  exact List.mem_map_of_mem (mem_of_resolve?_eq_some resolved).1

/-- In the document of a valid schema the type of every relation line is declared by the blocks of
the models of that name, and there is one at least; it is the only one where names are distinct.
Where ids are distinct, which they are in all schemas that are made with fresh ids, looking for the
first and for the last model with an id gives the same model and the same name. -/
theorem declared_and_denoted_of_isValid {schema : Schema} (valid : schema.IsValid) :
    (∀ model ∈ schema.models, ∀ member ∈ schema.membersOf model,
      Document.declarations schema member.type = (schema.models.map (·.name)).count member.type ∧
        1 ≤ Document.declarations schema member.type ∧
        ((schema.models.map (·.name)).Nodup →
          Document.declarations schema member.type = 1)) ∧
      ((schema.models.map (·.id)).Nodup → ∀ id,
        resolve? schema.models id = schema.model? id ∧
          (nameTable schema.models).nameOf id = ((schema.model? id).map (·.name)).getD id) ∧
      ∀ steps, empty.TakesFreshIds steps → empty.after steps = schema →
        (schema.models.map (·.id)).Nodup := by
  refine ⟨fun model _ member listed => ?_, fun distinct id => ?_, ?_⟩
  · have named := valid.type_mem_names listed
    rw [Document.declarations_eq_count valid]
    exact ⟨rfl, List.one_le_count_iff.mpr named,
      fun distinct => List.count_eq_one_of_mem distinct named⟩
  · have agree : resolve? schema.models id = schema.model? id :=
      resolve?_eq_find?_of_nodup distinct id
    exact ⟨agree, by rw [nameOf_nameTable, agree]⟩
  · rintro steps fresh rfl
    exact (hasDistinctIds_empty.after fresh).models

/-- After the run of `postsOfUsers` the type of the one relation line is declared once, and the
first model with an id is the last one. -/
theorem declared_and_denoted_postsOfUsers :
    ∃ schema, empty.after postsOfUsers = schema ∧ schema.IsValid ∧
      empty.TakesFreshIds postsOfUsers ∧
      (∃ model ∈ schema.models, ∃ member ∈ schema.membersOf model,
        member.type = "User" ∧ Document.declarations schema member.type = 1) ∧
      (schema.models.map (·.id)).Nodup ∧
      ∀ id, resolve? schema.models id = schema.model? id := by
  refine ⟨_, rfl, ?_⟩
  have valid : (empty.after postsOfUsers).IsValid := ⟨_, rfl, by decide⟩
  have fresh : empty.TakesFreshIds postsOfUsers := by decide
  obtain ⟨declared, denoted, reached⟩ := declared_and_denoted_of_isValid valid
  have distinct := reached _ fresh rfl
  refine ⟨valid, fresh, ?_, distinct, fun id => (denoted distinct id).1⟩
  refine ⟨_, List.mem_of_getElem? (i := 1) rfl, _, List.mem_of_getElem? (i := 0) rfl, rfl, ?_⟩
  exact (declared _ (List.mem_of_getElem? (i := 1) rfl) _
    (List.mem_of_getElem? (i := 0) rfl)).2.2 (by decide)

/-- Two models with one id, and a relationship that leads to it. -/
def sharedId : Schema where
  models :=
    [⟨"u", "User", [⟨"key", "Int", true, false, ["id"], none⟩], []⟩,
      ⟨"u", "Admin", [⟨"key", "Int", true, false, ["id"], none⟩], []⟩,
      ⟨"p", "Post", [⟨"owner", "Int", true, false, [], none⟩], []⟩]
  relationships := [⟨"r", "p", "u", .oneToMany, ⟨none, none, [⟨"owner", "key"⟩]⟩⟩]

/-- The run of `postsOfUsers`, after which another model is named like the users. -/
def sharedName : List Edit.Step :=
  postsOfUsers ++
    [⟨.addModel ⟨"", "User", [⟨"key", "Int", true, false, ["id"], none⟩], []⟩ true, "v"⟩]

/-- Validity does not keep ids or names apart: an id of a valid schema may denote one model for those
who look for the first and another for those who look for the last, and gated edits with fresh ids
may lead to a valid schema in which a relation line has a type that is declared twice. -/
theorem ambiguous_sharedId_and_sharedName :
    (sharedId.IsValid ∧ ¬ (sharedId.models.map (·.id)).Nodup ∧
      sharedId.model? "u" ≠ resolve? sharedId.models "u") ∧
    ∃ schema, empty.after sharedName = schema ∧ schema.IsValid ∧
      (∀ step ∈ sharedName, step.edit.isGated = true) ∧ empty.TakesFreshIds sharedName ∧
      ¬ (schema.models.map (·.name)).Nodup ∧
      ∃ model ∈ schema.models, ∃ member ∈ schema.membersOf model,
        Document.declarations schema member.type = 2 := by
  have valid : (empty.after sharedName).IsValid := ⟨_, rfl, by decide⟩
  refine ⟨⟨⟨_, rfl, by decide⟩, by decide, by decide⟩, _, rfl, valid, by decide, by decide,
    by decide, ?_⟩
  refine ⟨_, List.mem_of_getElem? (i := 1) rfl, _, List.mem_of_getElem? (i := 0) rfl, ?_⟩
  decide +kernel

end Schema

end SchemaDesk
