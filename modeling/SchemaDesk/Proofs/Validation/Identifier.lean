import SchemaDesk.Proofs.Edit.Proposal
import SchemaDesk.Proofs.Validation.Field
import SchemaDesk.Proofs.Validation.ModelReport

/-!
# What validation says of names

An identifier is an ASCII letter of the kind that is asked for and then ASCII
letters. Validation blames no identifier: where it finds a name missing or
malformed, it points at a name that is none. It takes every identifier, and an
identifier with one line feed behind it, and no other name.
-/

namespace SchemaDesk

open Text

namespace Validation

/-- The text is a letter of the kind with ASCII letters behind it. -/
def IsIdentifier (initial : Char → Bool) (text : List Char) : Prop :=
  ∃ c rest, text = c :: rest ∧ initial c = true ∧ ∀ other ∈ rest, other.isAlpha = true

variable {initial : Char → Bool} {text : List Char}

theorem isAlpha_of_isUpper (c : Char) (capital : c.isUpper = true) : c.isAlpha = true := by
  show (c.isUpper || c.isLower) = true
  rw [capital, Bool.true_or]

theorem isAlpha_of_isLower (c : Char) (lower : c.isLower = true) : c.isAlpha = true := by
  show (c.isUpper || c.isLower) = true
  rw [lower, Bool.or_true]

theorem hasShape_iff_isIdentifier :
    HasShape initial text ↔
      IsIdentifier initial text ∨ ∃ word, IsIdentifier initial word ∧ text = word ++ ['\n'] := by
  constructor
  · rintro ⟨c, rest, first, letters, plain | ended⟩
    · exact .inl ⟨c, rest, plain, first, letters⟩
    · exact .inr ⟨c :: rest, ⟨c, rest, rfl, first, letters⟩, ended⟩
  · rintro (⟨c, rest, plain, first, letters⟩ | ⟨_, ⟨c, rest, rfl, first, letters⟩, ended⟩)
    · exact ⟨c, rest, first, letters, .inl plain⟩
    · exact ⟨c, rest, first, letters, .inr ended⟩

namespace IsIdentifier

theorem ne_nil (identifier : IsIdentifier initial text) : text ≠ [] := by
  obtain ⟨c, rest, rfl, -⟩ := identifier
  exact List.cons_ne_nil c rest

theorem areLetters (letter : ∀ c, initial c = true → c.isAlpha = true)
    (identifier : IsIdentifier initial text) : AreLetters text := by
  obtain ⟨c, rest, rfl, first, letters⟩ := identifier
  exact List.forall_mem_cons.mpr ⟨letter c first, letters⟩

theorem no_feed (letter : ∀ c, initial c = true → c.isAlpha = true)
    (identifier : IsIdentifier initial text) : '\n' ∉ text :=
  (identifier.areLetters letter).no_feed

/-- An identifier with a capital letter is a name for a model. -/
theorem isModelName (identifier : IsIdentifier Char.isUpper text) : isModelName text = true :=
  (isModelName_iff text).mpr (hasShape_iff_isIdentifier.mpr (.inl identifier))

/-- An identifier with a lower-case letter is a name for a field. -/
theorem isFieldName (identifier : IsIdentifier Char.isLower text) : isFieldName text = true :=
  (isFieldName_iff text).mpr (hasShape_iff_isIdentifier.mpr (.inl identifier))

end IsIdentifier

end Validation

open Validation

/-! ## What is said of names -/

/-- The finding is that a name is missing or malformed. -/
def Finding.blamesName : Finding → Bool
  | .modelNameMissing | .modelNameMalformed | .fieldNameMissing | .fieldNameMalformed => true
  | _ => false

/-- None of the findings is about a name. -/
def BlamesNoName (found : List Diagnostic) : Prop :=
  ∀ diagnostic ∈ found, diagnostic.finding.blamesName = false

namespace BlamesNoName

theorem nil : BlamesNoName [] := nofun

theorem append {found others : List Diagnostic} (here : BlamesNoName found)
    (there : BlamesNoName others) : BlamesNoName (found ++ others) :=
  List.forall_mem_append.mpr ⟨here, there⟩

theorem singleton {diagnostic : Diagnostic} (other : diagnostic.finding.blamesName = false) :
    BlamesNoName [diagnostic] :=
  List.forall_mem_singleton.mpr other

theorem ite {condition : Prop} [Decidable condition] {found others : List Diagnostic}
    (here : BlamesNoName found) (there : BlamesNoName others) :
    BlamesNoName (if condition then found else others) :=
  forall_mem_ite here there

/-- A check that blames no name at any entry blames none along a list. -/
theorem sweep {α : Type} {check : List α → Nat → α → List Diagnostic}
    (each : ∀ earlier position entry, BlamesNoName (check earlier position entry))
    (earlier : List α) (position : Nat) (entries : List α) :
    BlamesNoName (sweep check earlier position entries) :=
  forall_mem_sweep earlier position fun _ _ _ _ => each _ _ _

end BlamesNoName

/-- The test of a name reports at most one of two findings, and nothing if the name passes. -/
theorem eq_or_eq_of_mem_shapeFindings {missing malformed diagnostic : Diagnostic} {name : String}
    {passes : Bool} (reported : diagnostic ∈
      if name.isEmpty then [missing] else if passes then [] else [malformed]) :
    (diagnostic = missing ∧ name.toList = []) ∨ (diagnostic = malformed ∧ passes = false) := by
  split at reported
  · next empty =>
    refine .inl ⟨List.mem_singleton.mp reported, ?_⟩
    rw [String.isEmpty_iff.mp empty]
    rfl
  · split at reported
    · cases reported
    · next fails => exact .inr ⟨List.mem_singleton.mp reported, Bool.eq_false_iff.mpr fails⟩

namespace Field

/-- Whatever is found of the name of a field is found at the name, and the name is no identifier. -/
theorem of_mem_nameFindings {field : Field} {diagnostic : Diagnostic}
    (reported : diagnostic ∈ field.nameFindings) :
    diagnostic.location? = some ⟨"field", [.key "name"]⟩ ∧
      ¬ IsIdentifier Char.isLower field.name.toList := by
  rcases eq_or_eq_of_mem_shapeFindings reported with ⟨rfl, empty⟩ | ⟨rfl, fails⟩
  · exact ⟨rfl, fun identifier => identifier.ne_nil empty⟩
  · exact ⟨rfl, fun identifier => by simp [identifier.isFieldName] at fails⟩

theorem blamesNoName_typeFindings (field : Field) : BlamesNoName field.typeFindings :=
  .ite (.singleton rfl) (.ite .nil (.singleton rfl))

theorem blamesNoName_tokenFindings (earlier tokens : List String) (position : Nat) :
    BlamesNoName (tokenFindings earlier position tokens) := by
  induction tokens generalizing earlier position with
  | nil => exact .nil
  | cons token tokens ih =>
    exact .append (.ite (.singleton rfl) (.ite (.singleton rfl) .nil)) (ih _ _)

theorem blamesNoName_attributeFindings (field : Field) : BlamesNoName field.attributeFindings :=
  .append (.ite (.singleton rfl) .nil) (.ite (.singleton rfl) .nil)

theorem blamesNoName_defaultFindings {field : Field} {found : List Diagnostic}
    (checked : field.defaultFindings = .ok found) : BlamesNoName found := by
  unfold defaultFindings at checked
  split at checked
  · next value type given known =>
    cases compared : value.misfit? type with
    | error failure => simp [compared, bind, Except.bind] at checked
    | ok finding? =>
      cases finding? with
      | none =>
        simp only [compared, bind, Except.bind, Except.ok.injEq] at checked
        exact checked ▸ .nil
      | some finding =>
        simp only [compared, bind, Except.bind, Except.ok.injEq] at checked
        have listed := DefaultValue.finding_of_misfit? compared
        simp only [List.mem_cons, List.not_mem_nil, or_false] at listed
        refine checked ▸ .singleton ?_
        rcases listed with rfl | rfl | rfl <;> rfl
  · cases checked
    exact .nil

/-- Of the checks of a field, only that of its name blames a name. -/
theorem mem_nameFindings_of_blamesName {field : Field} {found : List Diagnostic}
    (checked : field.validate = .ok found) {diagnostic : Diagnostic}
    (reported : diagnostic ∈ found) (blames : diagnostic.finding.blamesName = true) :
    diagnostic ∈ field.nameFindings := by
  obtain ⟨ofDefault, default, made⟩ := bind_eq_ok_iff.mp checked
  cases made
  simp only [List.mem_append] at reported
  rcases reported with (((name | other) | other) | other) | other
  · exact name
  · simp [field.blamesNoName_typeFindings _ other] at blames
  · simp [blamesNoName_defaultFindings default _ other] at blames
  · simp [blamesNoName_tokenFindings _ _ _ _ other] at blames
  · simp [field.blamesNoName_attributeFindings _ other] at blames

end Field

namespace Model

/-- Whatever is found of the name of a model is found at the name, and the name is no identifier. -/
theorem of_mem_nameFindings {model : Model} {diagnostic : Diagnostic}
    (reported : diagnostic ∈ model.nameFindings) :
    diagnostic.location? = some ⟨"model", [.key "name"]⟩ ∧
      ¬ IsIdentifier Char.isUpper model.name.toList := by
  rcases eq_or_eq_of_mem_shapeFindings reported with ⟨rfl, empty⟩ | ⟨rfl, fails⟩
  · exact ⟨rfl, fun identifier => identifier.ne_nil empty⟩
  · exact ⟨rfl, fun identifier => by simp [identifier.isModelName] at fails⟩

/-- What is found in the fields of a model is found in one of them, and is located there. -/
theorem exists_field_of_mem_fieldFindings {fields : List Field} {position : Nat}
    {found : List Diagnostic} (checked : fieldFindings position fields = .ok found)
    {diagnostic : Diagnostic} (reported : diagnostic ∈ found) :
    ∃ (i : Nat) (field : Field) (here : List Diagnostic), fields[i]? = some field ∧
      field.validate = .ok here ∧ ∃ inner ∈ here, diagnostic =
        inner.rebase "model" [.key "fields", .index (position + i : Nat)] := by
  induction fields generalizing position found with
  | nil =>
    cases checked
    cases reported
  | cons field fields ih =>
    rw [fieldFindings] at checked
    obtain ⟨here, validated, checked⟩ := bind_eq_ok_iff.mp checked
    obtain ⟨later, rest, checked⟩ := bind_eq_ok_iff.mp checked
    cases checked
    rcases List.mem_append.mp reported with first | others
    · obtain ⟨inner, inside, rfl⟩ := List.mem_map.mp first
      exact ⟨0, field, here, rfl, validated, inner, inside, rfl⟩
    · obtain ⟨i, other, found, listed, validated, inner, inside, same⟩ := ih rest others
      refine ⟨i + 1, other, found, listed, validated, inner, inside, ?_⟩
      rw [same, Nat.add_right_comm, Nat.add_assoc]

theorem blamesNoName_emptinessFindings (model : Model) : BlamesNoName model.emptinessFindings :=
  .ite (.singleton rfl) .nil

theorem blamesNoName_repeatedNames (earlier names : List String) (position : Nat) :
    BlamesNoName (repeatedNames earlier position names) := by
  rw [repeatedNames_eq_sweep]
  exact .sweep (fun _ _ _ => .ite (.singleton rfl) .nil) _ _ _

theorem blamesNoName_repeatedAttributes (earlier marks : List BlockAttribute) (position : Nat) :
    BlamesNoName (repeatedAttributes earlier position marks) := by
  rw [repeatedAttributes_eq_sweep]
  exact .sweep (fun _ _ _ => .ite (.singleton rfl) (.ite (.singleton rfl) .nil)) _ _ _

theorem blamesNoName_attributeFindings (marks : List BlockAttribute) (position : Nat) :
    BlamesNoName (attributeFindings position marks) := by
  rw [attributeFindings_eq_sweep []]
  refine .sweep (fun _ _ mark => List.forall_mem_map.mpr fun inner reported => ?_) _ _ _
  have single : BlamesNoName mark.validate := by
    unfold BlockAttribute.validate
    split
    · exact .singleton rfl
    · exact .ite (.singleton rfl) .nil
  rw [Diagnostic.finding_rebase]
  exact single inner reported

/-- Validation of a model blames a name only where it is no identifier. -/
theorem not_isIdentifier_of_blamesName {model : Model} {found : List Diagnostic}
    (checked : model.validate = .ok found) {diagnostic : Diagnostic}
    (reported : diagnostic ∈ found) (blames : diagnostic.finding.blamesName = true) :
    (diagnostic.location? = some ⟨"model", [.key "name"]⟩ ∧
        ¬ IsIdentifier Char.isUpper model.name.toList) ∨
      ∃ (i : Nat) (field : Field), model.fields[i]? = some field ∧
        diagnostic.location? = some ⟨"model", [.key "fields", .index i, .key "name"]⟩ ∧
        ¬ IsIdentifier Char.isLower field.name.toList := by
  obtain ⟨ofFields, inFields, made⟩ := bind_eq_ok_iff.mp checked
  cases made
  simp only [List.mem_append] at reported
  rcases reported with ((((name | other) | other) | other) | ofField) | other
  · exact .inl (of_mem_nameFindings name)
  · simp [model.blamesNoName_emptinessFindings _ other] at blames
  · simp [blamesNoName_repeatedNames _ _ _ _ other] at blames
  · simp [blamesNoName_repeatedAttributes _ _ _ _ other] at blames
  · obtain ⟨i, field, here, listed, validated, inner, inside, rfl⟩ :=
      exists_field_of_mem_fieldFindings inFields ofField
    rw [Diagnostic.finding_rebase] at blames
    obtain ⟨located, bad⟩ := Field.of_mem_nameFindings
      (Field.mem_nameFindings_of_blamesName validated inside blames)
    refine .inr ⟨i, field, listed, ?_, bad⟩
    rw [Diagnostic.rebase, located, Nat.zero_add]
    rfl
  · simp [blamesNoName_attributeFindings _ _ _ other] at blames

end Model

end SchemaDesk
