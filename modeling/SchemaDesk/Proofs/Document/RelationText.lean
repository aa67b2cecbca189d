import SchemaDesk.Document.Basic
import SchemaDesk.Proofs.Document.FreeName
import SchemaDesk.Proofs.Document.Legible
import SchemaDesk.Proofs.Document.RelationLines
import SchemaDesk.Proofs.Number.Notation
import SchemaDesk.Proofs.Text.Quoted
import SchemaDesk.Proofs.Text.Run
import SchemaDesk.Proofs.Validation.Schema

/-!
# Relation lines are single lines

In a valid and legible schema every text that goes into a relation line is made
of letters, or it is quoted, or it is a fixed word. So no relation line holds a
line feed. Such a line starts with a space, and only a model with fields has
relation lines.
-/

namespace SchemaDesk

open Text

theorem no_feed_quotedLiteral (text : String) : '\n' ∉ (quotedLiteral text).toList := by
  rw [quotedLiteral, String.toList_ofList]
  exact Quoted.no_feed_write text.toList

theorem no_feed_variantEnding (n : Nat) : '\n' ∉ (variantEnding n).toList := by
  match n with
  | 0 | 1 => decide
  | n + 2 =>
    have number : '\n' ∉ Nat.toDigits 10 (n + 2) := fun inside =>
      absurd (Number.isDigit_of_mem_natText '\n' inside) (by decide)
    simp [variantEnding, number]

theorem no_feed_freeName {name : String} (plain : '\n' ∉ name.toList) (taken : List String) :
    '\n' ∉ (freeName taken name).toList := by
  obtain ⟨n, -, chosen, -⟩ := freeName_spec taken name
  rw [chosen, nameVariant_eq_append]
  simp [plain, no_feed_variantEnding n]

/-- Joined texts hold no line feed if neither they nor the separator do. -/
theorem no_feed_intercalate {separator : String} {texts : List String}
    (plain : '\n' ∉ separator.toList) (each : ∀ text ∈ texts, '\n' ∉ text.toList) :
    '\n' ∉ (separator.intercalate texts).toList := by
  cases texts with
  | nil => simp
  | cons first rest =>
    rw [List.forall_mem_cons] at each
    rw [intercalate_cons_eq_join, String.toList_append, String.toList_join, List.mem_append, not_or]
    refine ⟨each.1, fun inside => ?_⟩
    rw [List.flatMap_map] at inside
    obtain ⟨text, listed, here⟩ := List.mem_flatMap.mp inside
    rw [String.toList_append, List.mem_append] at here
    exact here.elim plain (each.2 text listed)

namespace RelationMember

/-- The texts of the member hold no line feed. -/
structure IsPlain (member : RelationMember) : Prop where
  name : '\n' ∉ member.name.toList
  type : '\n' ∉ member.type.toList
  arguments : ∀ part ∈ member.arguments.parts, '\n' ∉ part.toList

/-- A line of plain texts is a single line. -/
theorem IsPlain.no_feed_render {member : RelationMember} (plain : member.IsPlain) :
    '\n' ∉ member.render.toList := by
  have arguments : '\n' ∉ member.arguments.render.toList :=
    no_feed_intercalate (by decide) plain.arguments
  have suffix : '\n' ∉ (if member.isList = true then "[]" else "").toList := by
    split <;> decide
  simp [render, plain.name, plain.type, arguments, suffix]

/-- The line of a member starts with a space. -/
theorem exists_toList_render (member : RelationMember) :
    ∃ rest, member.render.toList = ' ' :: rest := by
  simp [render]

end RelationMember

/-- What holds of every member once it is named, whatever names are taken, holds of all of them. -/
theorem forall_mem_nameMembers {P : RelationMember → Prop} {members : List RelationMember}
    (each : ∀ member ∈ members, ∀ taken, P { member with name := freeName taken member.name })
    (taken : List String) : ∀ member ∈ nameMembers taken members, P member := by
  induction members generalizing taken with
  | nil => exact nofun
  | cons member members ih =>
    rw [List.forall_mem_cons] at each
    exact List.forall_mem_cons.mpr ⟨each.1 taken, ih each.2 _⟩

/-- A plain member stays plain when it is named. -/
theorem RelationMember.IsPlain.named {member : RelationMember} (plain : member.IsPlain)
    (taken : List String) :
    ({ member with name := freeName taken member.name } : RelationMember).IsPlain where
  name := no_feed_freeName plain.name taken
  type := plain.type
  arguments := plain.arguments

namespace RelationArguments

theorem no_feed_actionArgument {key : String} (plain : '\n' ∉ key.toList)
    (action? : Option ReferentialAction) :
    ∀ part ∈ actionArgument key action?, '\n' ∉ part.toList := by
  cases action? with
  | none => exact nofun
  | some action =>
    have keyword : '\n' ∉ action.keyword.toList := by cases action <;> decide
    refine List.forall_mem_singleton.mpr ?_
    simp [plain, keyword]

/-- The arguments hold no line feed if the mapped fields do not. -/
theorem no_feed_of_mem_owning {mapping : FieldMapping} (field : '\n' ∉ mapping.fieldName.toList)
    (referenced : '\n' ∉ mapping.referencedField.toList)
    (onDelete? onUpdate? : Option ReferentialAction) (relationName? : Option String) :
    ∀ part ∈ (owning mapping onDelete? onUpdate? relationName?).parts, '\n' ∉ part.toList := by
  have named : ∀ part ∈ relationName?.toList.map fun name => "name: " ++ quotedLiteral name,
      '\n' ∉ part.toList := by
    refine List.forall_mem_map.mpr fun name _ => ?_
    simp [no_feed_quotedLiteral name]
  rw [parts]
  simp only [List.forall_mem_append, List.forall_mem_cons]
  refine ⟨⟨⟨⟨?_, ?_, nofun⟩, no_feed_actionArgument (by decide) onDelete?⟩,
    no_feed_actionArgument (by decide) onUpdate?⟩, named⟩
  · simp [field]
  · simp [referenced]

end RelationArguments

namespace Schema

variable {schema : Schema} {relationship : Relationship}

/-- The fields that a complete relationship maps have names of letters. -/
theorem IsLegible.letters_of_isComplete (legible : schema.IsLegible)
    (sound : relationship.IsSound schema.models)
    (complete : relationship.IsComplete schema.models) {mapping : FieldMapping}
    (listed : mapping ∈ relationship.mappings) :
    AreLetters mapping.fieldName.toList ∧ AreLetters mapping.referencedField.toList := by
  obtain ⟨source, leads⟩ := exists_resolve?_of_mem sound.source
  obtain ⟨target, led⟩ := exists_resolve?_of_mem sound.target
  obtain ⟨fromSource, fromTarget⟩ := complete mapping listed
  have sourceLegible := legible.models source (mem_of_resolve?_eq_some leads).1
  have targetLegible := legible.models target (mem_of_resolve?_eq_some led).1
  exact ⟨sourceLegible.letters_of_mem_fieldNames (fromSource source leads),
    targetLegible.letters_of_mem_fieldNames (fromTarget target led)⟩

theorem IsLegible.isPlain_of_mem_owningMembers (legible : schema.IsLegible)
    (sound : relationship.IsSound schema.models)
    (complete : relationship.IsComplete schema.models) :
    ∀ member ∈ relationship.owningMembers (nameTable schema.models), member.IsPlain := by
  have target := legible.letters_nameOf sound.target
  refine List.forall_mem_map.mpr fun mapping listed => ?_
  obtain ⟨field, referenced⟩ := legible.letters_of_isComplete sound complete listed
  exact {
    name := (letters_wishedName field target).no_feed
    type := target.no_feed
    arguments := RelationArguments.no_feed_of_mem_owning field.no_feed
      referenced.no_feed _ _ _ }

theorem IsLegible.isPlain_inverseMember (legible : schema.IsLegible)
    (sound : relationship.IsSound schema.models) :
    (relationship.inverseMember (nameTable schema.models)).IsPlain := by
  have source := legible.letters_nameOf sound.source
  exact {
    name := (letters_lowerFirst source).no_feed
    type := source.no_feed
    arguments := List.forall_mem_singleton.mpr (no_feed_quotedLiteral relationship.id) }

/-- In a valid schema the members of a model are those of relationships that are sound and
complete. -/
theorem IsValid.forall_mem_wishedMembers (valid : schema.IsValid) {P : RelationMember → Prop}
    (owning : ∀ relationship : Relationship, relationship.IsSound schema.models →
      relationship.IsComplete schema.models →
        ∀ member ∈ relationship.owningMembers (nameTable schema.models), P member)
    (inverse : ∀ relationship : Relationship, relationship.IsSound schema.models →
      P (relationship.inverseMember (nameTable schema.models))) (model : Model) :
    ∀ member ∈ model.wishedMembers schema.relationships (nameTable schema.models), P member := by
  have related := (isValid_iff.mp valid).2
  refine List.forall_mem_append.mpr ⟨?_, ?_⟩
  · refine List.forall_mem_flatMap.mpr fun relationship owned => ?_
    obtain ⟨sound, complete⟩ := related relationship (List.mem_of_mem_filter owned)
    exact owning relationship sound complete
  · refine List.forall_mem_map.mpr fun relationship incoming => ?_
    obtain ⟨sound, -⟩ := related relationship (List.mem_of_mem_filter incoming)
    exact inverse relationship sound

/-- In a valid and legible schema relation lines are single lines. -/
theorem IsLegible.isPlain_of_mem_relationMembers (legible : schema.IsLegible)
    (valid : schema.IsValid) (model : Model) :
    ∀ member ∈ model.relationMembers schema.relationships (nameTable schema.models),
      member.IsPlain := by
  have wished := valid.forall_mem_wishedMembers
    (fun _ sound complete => legible.isPlain_of_mem_owningMembers sound complete)
    (fun _ sound => legible.isPlain_inverseMember sound) model
  exact forall_mem_nameMembers (fun member listed => (wished member listed).named) _

/-- Only a model with fields has relation lines. -/
theorem IsLegible.fields_ne_nil (legible : schema.IsLegible) (valid : schema.IsValid)
    {model : Model} (inside : model ∈ schema.models)
    (related : model.relationMembers schema.relationships (nameTable schema.models) ≠ []) :
    model.fields ≠ [] := by
  have found := resolve?_eq_some_of_mem legible.distinct inside
  have wished : model.wishedMembers schema.relationships (nameTable schema.models) ≠ [] :=
    fun none => related (by rw [Model.relationMembers, none, nameMembers])
  -- Either end of a relationship that maps a field has that field.
  have filled {name : String} (listed : name ∈ model.fieldNames) : model.fields ≠ [] := by
    rintro none
    rw [Model.fieldNames, none] at listed
    cases listed
  obtain ⟨member, listed⟩ := List.exists_mem_of_ne_nil _ wished
  rcases List.mem_append.mp listed with owning | inverse
  · obtain ⟨relationship, owned, mapped⟩ := List.mem_flatMap.mp owning
    obtain ⟨mapping, listed, -⟩ := List.mem_map.mp mapped
    obtain ⟨placed, leads⟩ := List.mem_filter.mp owned
    have complete := ((isValid_iff.mp valid).2 relationship placed).2
    rw [← eq_of_beq leads] at found
    exact filled ((complete mapping listed).1 model found)
  · obtain ⟨relationship, incoming, -⟩ := List.mem_map.mp inverse
    obtain ⟨placed, led⟩ := List.mem_filter.mp incoming
    obtain ⟨sound, complete⟩ := (isValid_iff.mp valid).2 relationship placed
    obtain ⟨mapping, listed⟩ := List.exists_mem_of_ne_nil _ sound.mapped
    rw [← eq_of_beq (Bool.and_eq_true_iff.mp led).1] at found
    exact filled ((complete mapping listed).2 model found)

end Schema

end SchemaDesk
