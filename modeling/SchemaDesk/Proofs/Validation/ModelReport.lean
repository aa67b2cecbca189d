import SchemaDesk.Proofs.Validation.Name
import SchemaDesk.Proofs.Validation.Report
import SchemaDesk.Validation.Model

/-!
# The report on a model

Everything that validation says about a model, told without going through its
lists. An error stands at a field exactly if an earlier field has its name, and
at an attribute exactly if it repeats an earlier one; what is said about single
fields and attributes comes after that, in their order.
-/

namespace SchemaDesk.Model

/-- A model needs a name of the right shape. -/
def nameReport (model : Model) : List Notice :=
  if model.name = "" then [.errorAt "Model name is required" "model" [.key "name"]]
  else if Validation.HasShape Char.isUpper model.name.toList then []
  else [.errorAt "Model name must start with a capital letter and contain only letters" "model"
    [.key "name"]]

/-- A model without fields is warned of. -/
def emptinessReport (model : Model) : List Notice :=
  if model.fields = [] then [.warning "Model should have at least one field"] else []

/-- The field at position `i` repeats the name of an earlier one. -/
def duplicateFieldReport (model : Model) : List Notice :=
  eachPosition model.fieldNames fun i =>
    if HasEarlier (· = ·) model.fieldNames i then
      [.errorAt ("Duplicate field name: " ++ model.fieldNames[i]) "model"
        [.key "fields", .index i, .key "name"]]
    else []

/-- The attribute at position `i` repeats the name and the value of an earlier one, or else the name
of an earlier one although it may appear once. -/
def duplicateAttributeReport (model : Model) : List Notice :=
  eachPosition model.attributes fun i =>
    if HasEarlier (fun other mark => other.name = mark.name ∧ other.value = mark.value)
        model.attributes i then
      [.errorAt ("Duplicate model attribute: " ++ model.attributes[i].name) "model"
        [.key "attributes", .index i]]
    else if model.attributes[i].kind?.any BlockAttributeKind.single = true ∧
        HasEarlier (fun other mark => other.name = mark.name) model.attributes i then
      [.errorAt (model.attributes[i].name ++ " may only appear once per model") "model"
        [.key "attributes", .index i]]
    else []

/-- What is found in the field at position `i`, as part of the model. -/
def fieldReport (model : Model) (found : Field → List Diagnostic) : List Notice :=
  eachPosition model.fields fun i =>
    (found model.fields[i]).map fun diagnostic =>
      diagnostic.notice.under "model" [.key "fields", .index i]

/-- What is found in the attribute at position `i`, as part of the model. -/
def attributeReport (model : Model) : List Notice :=
  eachPosition model.attributes fun i =>
    model.attributes[i].validate.map fun diagnostic =>
      diagnostic.notice.under "model" [.key "attributes", .index i]

theorem map_notice_nameFindings (model : Model) :
    model.nameFindings.map Diagnostic.notice = model.nameReport := by
  unfold nameFindings nameReport
  simp only [String.isEmpty_iff, Validation.isModelName_iff]
  split
  · rfl
  · split <;> rfl

theorem map_notice_emptinessFindings (model : Model) :
    model.emptinessFindings.map Diagnostic.notice = model.emptinessReport := by
  unfold emptinessFindings emptinessReport
  simp only [List.isEmpty_iff]
  split <;> rfl

theorem repeatedNames_eq_sweep (earlier names : List String) (position : Nat) :
    repeatedNames earlier position names =
      sweep (fun earlier position name =>
        if earlier.contains name then
          [reportAt (.duplicateField name) [.key "fields", .index position, .key "name"]]
        else []) earlier position names := by
  induction names generalizing earlier position with
  | nil => rfl
  | cons name names ih => rw [repeatedNames, ih, sweep]

theorem map_notice_repeatedNames (model : Model) :
    (repeatedNames [] 0 model.fieldNames).map Diagnostic.notice = model.duplicateFieldReport := by
  rw [repeatedNames_eq_sweep, sweep_eq_eachPosition, map_eachPosition, duplicateFieldReport]
  refine congrArg (eachPosition model.fieldNames) (funext fun i => ?_)
  have earlier := exists_mem_take_iff_hasEarlier (· = ·) model.fieldNames i
  simp only [exists_eq_right] at earlier
  simp only [List.contains_iff_mem, earlier]
  split <;> rfl

theorem repeatedAttributes_eq_sweep (earlier marks : List BlockAttribute) (position : Nat) :
    repeatedAttributes earlier position marks =
      sweep (fun earlier position mark =>
        if earlier.any fun other => other.name == mark.name && other.value == mark.value then
          [reportAt (.duplicateBlockAttribute mark.name) [.key "attributes", .index position]]
        else if mark.kind?.any BlockAttributeKind.single &&
            earlier.any fun other => other.name == mark.name then
          [reportAt (.repeatedBlockAttribute mark.name) [.key "attributes", .index position]]
        else []) earlier position marks := by
  induction marks generalizing earlier position with
  | nil => rfl
  | cons mark marks ih => rw [repeatedAttributes, ih, sweep]

theorem map_notice_repeatedAttributes (model : Model) :
    (repeatedAttributes [] 0 model.attributes).map Diagnostic.notice =
      model.duplicateAttributeReport := by
  rw [repeatedAttributes_eq_sweep, sweep_eq_eachPosition, map_eachPosition,
    duplicateAttributeReport]
  refine congrArg (eachPosition model.attributes) (funext fun i => ?_)
  have equal := exists_mem_take_iff_hasEarlier
    (fun other mark : BlockAttribute => other.name = mark.name ∧ other.value = mark.value)
    model.attributes i
  have named := exists_mem_take_iff_hasEarlier
    (fun other mark : BlockAttribute => other.name = mark.name) model.attributes i
  simp only [List.any_eq_true, Bool.and_eq_true, beq_iff_eq, equal, named]
  split
  · rfl
  · split <;> rfl

theorem fieldFindings_eq_sweep {found : Field → List Diagnostic} {fields : List Field}
    (checked : ∀ field ∈ fields, field.validate = .ok (found field)) (earlier : List Field)
    (position : Nat) :
    fieldFindings position fields =
      .ok (sweep (fun _ position field =>
        (found field).map (·.rebase "model" [.key "fields", .index position]))
          earlier position fields) := by
  induction fields generalizing earlier position with
  | nil => rfl
  | cons field fields ih =>
    rw [List.forall_mem_cons] at checked
    rw [fieldFindings, checked.1, ih checked.2 (field :: earlier) (position + 1)]
    rfl

theorem attributeFindings_eq_sweep (earlier marks : List BlockAttribute) (position : Nat) :
    attributeFindings position marks =
      sweep (fun _ position mark =>
        mark.validate.map (·.rebase "model" [.key "attributes", .index position]))
          earlier position marks := by
  induction marks generalizing earlier position with
  | nil => rfl
  | cons mark marks ih => rw [attributeFindings, ih (mark :: earlier), sweep]

theorem map_notice_attributeFindings (model : Model) :
    (attributeFindings 0 model.attributes).map Diagnostic.notice = model.attributeReport := by
  rw [attributeFindings_eq_sweep [], sweep_eq_eachPosition, map_eachPosition, attributeReport]
  simp only [List.map_map, Function.comp_def, Diagnostic.notice_rebase]

/-- Where every field can be validated, the diagnostics of a model are these and no others: its
name, the lack of fields, repeated field names, repeated attributes, then what is found in each
field and in each attribute. -/
theorem validate_eq_report (model : Model) (found : Field → List Diagnostic)
    (checked : ∀ field ∈ model.fields, field.validate = .ok (found field)) :
    ∃ diagnostics, model.validate = .ok diagnostics ∧
      diagnostics.map Diagnostic.notice =
        model.nameReport ++ model.emptinessReport ++ model.duplicateFieldReport ++
          model.duplicateAttributeReport ++ model.fieldReport found ++ model.attributeReport := by
  refine ⟨_, by rw [validate, fieldFindings_eq_sweep checked [] 0]; rfl, ?_⟩
  simp only [List.map_append, map_notice_nameFindings, map_notice_emptinessFindings,
    map_notice_repeatedNames, map_notice_repeatedAttributes, map_notice_attributeFindings]
  rw [sweep_eq_eachPosition, map_eachPosition, fieldReport]
  simp only [List.map_map, Function.comp_def, Diagnostic.notice_rebase]

/-- A model with repetitions of every kind. The third `@@map` repeats the first one, the second one
only its name. -/
def crowded : Model where
  id := "m"
  name := "crowd"
  fields :=
    [⟨"a", "Int", true, false, [], none⟩, ⟨"b", "Text", true, true, ["id"], none⟩,
      ⟨"a", "Int", true, false, [], none⟩]
  attributes :=
    [⟨"@@map", some "x"⟩, ⟨"@@map", some "y"⟩, ⟨"@@map", some "x"⟩, ⟨"@@ignore", none⟩,
      ⟨"@@ignore", some ""⟩, ⟨"@@index", none⟩]

theorem validate_eq_report_crowded :
    ∃ diagnostics, crowded.validate = .ok diagnostics ∧
      diagnostics.map Diagnostic.notice =
        [.errorAt "Model name must start with a capital letter and contain only letters" "model"
            [.key "name"],
          .errorAt "Duplicate field name: a" "model" [.key "fields", .index 2, .key "name"],
          .errorAt "@@map may only appear once per model" "model" [.key "attributes", .index 1],
          .errorAt "Duplicate model attribute: @@map" "model" [.key "attributes", .index 2],
          .errorAt "Duplicate model attribute: @@ignore" "model" [.key "attributes", .index 4],
          .errorAt "Unknown field type: Text" "model" [.key "fields", .index 1, .key "type"],
          .errorAt "A list field cannot be an @id" "model"
            [.key "fields", .index 1, .key "attributes"],
          .errorAt "@@index requires a value" "model"
            [.key "attributes", .index 5, .key "value"]] := by
  have checked : ∀ field ∈ crowded.fields,
      field.validate = .ok (field.validate.toOption.getD []) := by decide
  obtain ⟨diagnostics, done, listed⟩ :=
    validate_eq_report crowded (fun field => field.validate.toOption.getD []) checked
  exact ⟨diagnostics, done, listed.trans (by decide +kernel)⟩

end SchemaDesk.Model
