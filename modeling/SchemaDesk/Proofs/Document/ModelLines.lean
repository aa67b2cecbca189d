import Mathlib.Data.List.Forall2
import SchemaDesk.Proofs.Document.FieldLine
import SchemaDesk.Proofs.Document.RelationText

/-!
# What the lines of a block tell

Each line of a model block tells by its start what it is: an attribute starts
with `@`, the header with `m`, fields and relation members with a space, and
between fields and relation members stands an empty line. So two blocks have
the same lines only if their models agree in everything that a document tells.
-/

namespace SchemaDesk

open Text

namespace BlockAttribute

/-- The argument in its brackets; an empty one is left out. -/
def argumentText (mark : BlockAttribute) : List Char :=
  if mark.value.isEmpty then [] else '(' :: (mark.value.toList ++ [')'])

theorem toList_render (mark : BlockAttribute) :
    mark.render.toList = mark.name.toList ++ mark.argumentText := by
  unfold render argumentText
  split <;> simp

variable {first second mark : BlockAttribute}

/-- The name of a known attribute starts with its sign and holds no bracket and no line feed. -/
theorem plain_name {kind : BlockAttributeKind} (known : mark.kind? = some kind) :
    mark.name.toList.head? = some '@' ∧ ∀ c ∈ mark.name.toList, c ≠ '(' ∧ c ≠ '\n' := by
  rw [← BlockAttributeKind.name_of_ofName? known]
  exact ⟨by cases kind <;> rfl, List.forall_iff_forall_mem.mp (by cases kind <;> decide)⟩

/-- Two known attributes with the same text have the same name and the same value. -/
theorem eq_of_render_eq {kind kind' : BlockAttributeKind} (known : first.kind? = some kind)
    (known' : second.kind? = some kind') (same : first.render = second.render) :
    first.name = second.name ∧ first.value = second.value := by
  have stop (mark : BlockAttribute) : EndsRun (· ≠ '(') mark.argumentText := by
    unfold argumentText
    split
    · exact endsRun_nil
    · exact endsRun_cons fun unequal => unequal rfl
  have texts := congrArg String.toList same
  rw [toList_render, toList_render] at texts
  obtain ⟨names, arguments⟩ := append_inj_of_runs
    (fun c inside => ((plain_name known).2 c inside).1)
    (fun c inside => ((plain_name known').2 c inside).1) (stop first) (stop second) texts
  refine ⟨String.toList_injective names, ?_⟩
  unfold argumentText at arguments
  split at arguments
  · next empty =>
    split at arguments
    · next empty' => rw [String.isEmpty_iff.mp empty, String.isEmpty_iff.mp empty']
    · cases arguments
  · split at arguments
    · cases arguments
    · exact String.toList_injective (List.append_cancel_right (List.cons.inj arguments).2)

theorem no_feed_render {kind : BlockAttributeKind} (known : mark.kind? = some kind)
    (plain : '\n' ∉ mark.value.toList) : '\n' ∉ mark.render.toList := by
  have name : '\n' ∉ mark.name.toList :=
    fun inside => ((plain_name known).2 '\n' inside).2 rfl
  rw [toList_render, argumentText]
  split
  · simpa using name
  · simp [name, plain]

end BlockAttribute

section Maps

variable {α β γ : Type} {related : α → β → Prop} {f : α → γ} {g : β → γ}

theorem map_eq_map_iff_forall₂ {entries : List α} {others : List β} :
    entries.map f = others.map g ↔
      List.Forall₂ (fun entry other => f entry = g other) entries others := by
  rw [← List.forall₂_eq_eq_eq, List.forall₂_map_left_iff, List.forall₂_map_right_iff]

/-- A relation that follows from equal values holds one by one where all values are equal. -/
theorem forall₂_of_map_eq {entries : List α} {others : List β}
    (each : ∀ entry ∈ entries, ∀ other ∈ others, f entry = g other → related entry other)
    (same : entries.map f = others.map g) : List.Forall₂ related entries others := by
  induction entries generalizing others with
  | nil =>
    cases others with
    | nil => exact .nil
    | cons other others => cases same
  | cons entry entries ih =>
    cases others with
    | nil => cases same
    | cons other others =>
      obtain ⟨first, rest⟩ := List.cons.inj same
      refine .cons (each entry List.mem_cons_self other List.mem_cons_self first) (ih ?_ rest)
      intro later listed further listed'
      exact each later (List.mem_cons_of_mem _ listed) further (List.mem_cons_of_mem _ listed')

end Maps

namespace Model

theorem IsAcceptable.isAcceptable_of_mem {model : Model} (acceptable : model.IsAcceptable)
    {field : Field} (inside : field ∈ model.fields) : field.IsAcceptable :=
  field.passes_validate_iff.mp (acceptable.eachField field inside)

theorem IsAcceptable.exists_kind {model : Model} (acceptable : model.IsAcceptable)
    {mark : BlockAttribute} (inside : mark ∈ model.attributes) :
    ∃ kind, mark.kind? = some kind := by
  obtain ⟨kind, known, -⟩ :=
    mark.hasErrors_validate_eq_false_iff.mp (acceptable.eachAttribute mark inside)
  exact ⟨kind, known⟩

end Model

namespace Document

/-- The header of a block. -/
def headerLine (model : Model) : String :=
  "model " ++ model.name ++ " \x7b"

/-- The lines of a block before its closing brace. -/
def bodyLines (model : Model) (members : List RelationMember) : List String :=
  model.attributes.map BlockAttribute.render ++
    headerLine model :: (model.fields.map fieldLine ++ relationLines model members)

theorem modelLines_eq_bodyLines (model : Model) (members : List RelationMember) :
    modelLines model members = bodyLines model members ++ ["\x7d"] := by
  simp [modelLines, bodyLines, headerLine]

section Lines

variable {model : Model} {members : List RelationMember}

/-- Where only models with fields have members, the members are set off by an empty line. -/
theorem relationLines_eq (filled : members ≠ [] → model.fields ≠ []) :
    relationLines model members =
      if members = [] then [] else "" :: members.map RelationMember.render := by
  unfold relationLines
  by_cases none : members = []
  · simp [none]
  · have nonempty : (members.isEmpty || model.fields.isEmpty) = false := by
      simp [none, filled none]
    simp [none, nonempty]

/-- No field has an empty line, so equal lines of fields and members are equal lines of fields and
equal lines of members. -/
theorem fieldsAndMembers_inj {other : Model} {others : List RelationMember}
    (filled : members ≠ [] → model.fields ≠ []) (filled' : others ≠ [] → other.fields ≠ [])
    (same : model.fields.map fieldLine ++ relationLines model members =
      other.fields.map fieldLine ++ relationLines other others) :
    model.fields.map fieldLine = other.fields.map fieldLine ∧
      members.map RelationMember.render = others.map RelationMember.render := by
  rw [relationLines_eq filled, relationLines_eq filled'] at same
  have visible (model : Model) : ∀ line ∈ model.fields.map fieldLine, line ≠ "" := by
    refine List.forall_mem_map.mpr fun field _ empty => ?_
    have start := congrArg String.toList empty
    rw [Field.toList_fieldLine] at start
    cases start
  have stop (members : List RelationMember) :
      EndsRun (· ≠ "") (if members = [] then [] else "" :: members.map RelationMember.render) := by
    split
    · exact endsRun_nil
    · exact endsRun_cons fun unequal => unequal rfl
  obtain ⟨fields, relations⟩ :=
    append_inj_of_runs (visible model) (visible other) (stop members) (stop others) same
  refine ⟨fields, ?_⟩
  split at relations
  · next none =>
    split at relations
    · next none' => rw [none, none']
    · cases relations
  · split at relations
    · cases relations
    · exact (List.cons.inj relations).2

/-- What holds of the empty line, of attributes, of the header, of fields and of members, holds of
every line of a block but the last. -/
theorem forall_mem_bodyLines {property : String → Prop} (blank : property "")
    (attributes : ∀ mark ∈ model.attributes, property mark.render)
    (header : property (headerLine model))
    (fields : ∀ field ∈ model.fields, property (fieldLine field))
    (relations : ∀ member ∈ members, property member.render) :
    ∀ line ∈ bodyLines model members, property line := by
  have related : ∀ line ∈ relationLines model members, property line := by
    have rendered := List.forall_mem_map.mpr relations
    unfold relationLines
    dsimp only
    split
    · exact rendered
    · exact List.forall_mem_cons.mpr ⟨blank, rendered⟩
  exact List.forall_mem_append.mpr ⟨List.forall_mem_map.mpr attributes,
    List.forall_mem_cons.mpr ⟨header, List.forall_mem_append.mpr
      ⟨List.forall_mem_map.mpr fields, related⟩⟩⟩

/-- No line of a block is a closing brace but the last. -/
theorem brace_not_mem_bodyLines (acceptable : model.IsAcceptable) :
    "\x7d" ∉ bodyLines model members := by
  refine List.forall_mem_ne'.mp (forall_mem_bodyLines (by decide) ?_ ?_ ?_ ?_)
  · intro mark inside same
    obtain ⟨kind, known⟩ := acceptable.exists_kind inside
    have start := congrArg (·.toList.head?) same
    rw [BlockAttribute.toList_render, List.head?_append,
      (BlockAttribute.plain_name known).1] at start
    cases start
  · intro same
    have start := congrArg (·.toList.head?) same
    simp [headerLine] at start
  · intro field _ same
    have start := congrArg String.toList same
    rw [Field.toList_fieldLine] at start
    cases start
  · intro member _ same
    have start := congrArg String.toList same
    obtain ⟨rest, rendered⟩ := member.exists_toList_render
    rw [rendered] at start
    cases start

/-- The lines of a block are single lines. -/
theorem no_feed_of_mem_bodyLines (acceptable : model.IsAcceptable) (legible : model.IsLegible)
    (plain : ∀ member ∈ members, member.IsPlain) :
    ∀ line ∈ bodyLines model members, '\n' ∉ line.toList := by
  refine forall_mem_bodyLines (by decide) ?_ ?_ ?_ fun member inside =>
    (plain member inside).no_feed_render
  · intro mark inside
    obtain ⟨kind, known⟩ := acceptable.exists_kind inside
    exact BlockAttribute.no_feed_render known (legible.attributes mark inside)
  · have name := legible.name.no_feed
    simp [headerLine, name]
  · exact fun field inside => Field.no_feed_fieldLine (acceptable.isAcceptable_of_mem inside)
      (legible.fields field inside)

end Lines

end Document

namespace Model

/-- Two models with their relation members agree in all that a document tells. An absent value of an
attribute counts as an empty one. -/
structure SameInDocument (first second : Model) (members others : List RelationMember) : Prop where
  name : first.name = second.name
  attributes : (first.attributes.map fun mark => (mark.name, mark.value)) =
    second.attributes.map fun mark => (mark.name, mark.value)
  fields : List.Forall₂ Field.SameInDocument first.fields second.fields
  relations : members.map RelationMember.render = others.map RelationMember.render

section Reading

variable {first second : Model} {members others : List RelationMember}

/-- Two models with the same lines agree in all that a document tells. -/
theorem sameInDocument_of_bodyLines_eq (acceptable : first.IsAcceptable)
    (acceptable' : second.IsAcceptable) (legible : first.IsLegible) (legible' : second.IsLegible)
    (filled : members ≠ [] → first.fields ≠ []) (filled' : others ≠ [] → second.fields ≠ [])
    (same : Document.bodyLines first members = Document.bodyLines second others) :
    first.SameInDocument second members others := by
  have signed {model : Model} (acceptable : model.IsAcceptable) :
      ∀ line ∈ model.attributes.map BlockAttribute.render, line.toList.head? = some '@' := by
    refine List.forall_mem_map.mpr fun mark inside => ?_
    obtain ⟨kind, known⟩ := acceptable.exists_kind inside
    rw [BlockAttribute.toList_render, List.head?_append, (BlockAttribute.plain_name known).1]
    rfl
  have header (model : Model) (more : List String) :
      EndsRun (fun line : String => line.toList.head? = some '@')
        (Document.headerLine model :: more) :=
    endsRun_cons (by simp [Document.headerLine])
  obtain ⟨attributes, rest⟩ := append_inj_of_runs (signed acceptable) (signed acceptable')
    (header first _) (header second _) same
  obtain ⟨headers, rest⟩ := List.cons.inj rest
  obtain ⟨fields, relations⟩ := Document.fieldsAndMembers_inj filled filled' rest
  refine ⟨?_, ?_, ?_, relations⟩
  · exact (String.append_right_inj _).mp ((String.append_left_inj _).mp headers)
  · refine map_eq_map_iff_forall₂.mpr ?_
    refine forall₂_of_map_eq (fun mark inside mark' inside' equal => ?_) attributes
    obtain ⟨kind, known⟩ := acceptable.exists_kind inside
    obtain ⟨kind', known'⟩ := acceptable'.exists_kind inside'
    obtain ⟨names, values⟩ := BlockAttribute.eq_of_render_eq known known' equal
    exact Prod.ext names values
  · refine forall₂_of_map_eq (fun field inside field' inside' equal => ?_) fields
    exact Field.sameInDocument_of_fieldLine_eq (acceptable.isAcceptable_of_mem inside)
      (acceptable'.isAcceptable_of_mem inside') (legible.fields field inside)
      (legible'.fields field' inside') equal

/-- Two models that agree in all that a document tells have the same lines. -/
theorem SameInDocument.bodyLines_eq (same : first.SameInDocument second members others) :
    Document.bodyLines first members = Document.bodyLines second others := by
  have attributes : first.attributes.map BlockAttribute.render =
      second.attributes.map BlockAttribute.render := by
    refine map_eq_map_iff_forall₂.mpr ?_
    refine (map_eq_map_iff_forall₂.mp same.attributes).imp fun mark other pair => ?_
    obtain ⟨names, values⟩ := Prod.mk.inj pair
    rw [BlockAttribute.render, BlockAttribute.render, names, values]
  have fields : first.fields.map Document.fieldLine = second.fields.map Document.fieldLine := by
    refine map_eq_map_iff_forall₂.mpr ?_
    exact same.fields.imp fun _ _ alike => alike.fieldLine_eq
  have relations : Document.relationLines first members = Document.relationLines second others := by
    have single : first.fields.isEmpty = second.fields.isEmpty := by
      rw [← List.isEmpty_map (f := Document.fieldLine), fields, List.isEmpty_map]
    have related : members.isEmpty = others.isEmpty := by
      rw [← List.isEmpty_map (f := RelationMember.render), same.relations, List.isEmpty_map]
    unfold Document.relationLines
    rw [single, related, same.relations]
  rw [Document.bodyLines, Document.bodyLines, Document.headerLine, Document.headerLine, same.name,
    attributes, fields, relations]

end Reading

end Model

end SchemaDesk
