import SchemaDesk.Proofs.Edit.Refusal
import SchemaDesk.Proofs.Number.Range

/-!
# When validation fails

Validation gives diagnostics for everything but a field of a fractional type
whose default is a whole number beyond the range of floating point. Such a field
makes the validation of its model, of its schema and of every edit that puts the
model before the gate fail; nothing else does.
-/

namespace SchemaDesk

/-- A computation of two steps has a result if the second step has one for what the first gives. -/
theorem exists_bind_eq_ok_iff {ε α β : Type} {first : Except ε α} {second : α → Except ε β} :
    (∃ result, (first >>= second) = .ok result) ↔
      ∃ value, first = .ok value ∧ ∃ result, second value = .ok result := by
  simp only [bind_eq_ok_iff]
  exact ⟨fun ⟨result, value, done, rest⟩ => ⟨value, done, result, rest⟩,
    fun ⟨value, done, result, rest⟩ => ⟨result, value, done, rest⟩⟩

/-- The default is a whole number that rounds beyond the range of floating point. -/
def DefaultValue.IsOversized (value : DefaultValue) : Prop :=
  ∃ n : Int, value = .integer n ∧ Number.exceedsBinary64 n = true

theorem DefaultValue.exists_fitsDecimal_iff (value : DefaultValue) :
    (∃ fits, value.fitsDecimal = .ok fits) ↔ ¬ value.IsOversized := by
  cases value with
  | integer n =>
    simp only [fitsDecimal, IsOversized, integer.injEq, exists_eq_left']
    split
    · next oversized => simp [oversized]
    · next fits => simp [fits]
  | boolean _ | float _ | text _ => simp [fitsDecimal, IsOversized]

/-- The default of one of the two fractional types is compared with floating-point numbers. -/
theorem DefaultValue.exists_misfit?_iff (value : DefaultValue) (type : ScalarType) :
    (∃ finding?, value.misfit? type = .ok finding?) ↔
      ¬ ((type = .float ∨ type = .decimal) ∧ value.IsOversized) := by
  cases type with
  | float | decimal =>
    simp only [misfit?, exists_bind_eq_ok_iff, Except.ok.injEq, exists_eq', and_true,
      exists_fitsDecimal_iff, true_or, or_true, true_and]
  | int | bigInt | boolean | dateTime | string | json | bytes => simp [misfit?]

namespace Field

/-- The type is a fractional one, and the default is a whole number beyond the range of floating
point. -/
def HasOversizedDefault (field : Field) : Prop :=
  (field.type = "Float" ∨ field.type = "Decimal") ∧
    ∃ n : Int, field.default? = some (.integer n) ∧ 2 ^ 1024 ≤ n.natAbs + 2 ^ 970

theorem scalarType?_eq_some_iff {field : Field} {type : ScalarType} :
    field.scalarType? = some type ↔ field.type = type.name := by
  constructor
  · intro spelled
    exact (ScalarType.name_of_ofName? spelled).symm
  · intro named
    rw [scalarType?, named, ScalarType.ofName?_name]

theorem hasOversizedDefault_iff (field : Field) :
    field.HasOversizedDefault ↔
      ∃ value type, field.default? = some value ∧ field.scalarType? = some type ∧
        (type = .float ∨ type = .decimal) ∧ value.IsOversized := by
  have named (type : ScalarType) : field.type = type.name ↔ field.scalarType? = some type :=
    scalarType?_eq_some_iff.symm
  simp only [HasOversizedDefault, ← Number.exceedsBinary64_iff]
  rw [show "Float" = ScalarType.float.name from rfl,
    show "Decimal" = ScalarType.decimal.name from rfl, named, named]
  constructor
  · rintro ⟨float | decimal, n, given, beyond⟩
    · exact ⟨_, _, given, float, .inl rfl, n, rfl, beyond⟩
    · exact ⟨_, _, given, decimal, .inr rfl, n, rfl, beyond⟩
  · rintro ⟨_, type, given, spelled, float | decimal, n, rfl, beyond⟩
    · exact ⟨.inl (float ▸ spelled), n, given, beyond⟩
    · exact ⟨.inr (decimal ▸ spelled), n, given, beyond⟩

theorem exists_defaultFindings_iff (field : Field) :
    (∃ found, field.defaultFindings = .ok found) ↔ ¬ field.HasOversizedDefault := by
  rw [hasOversizedDefault_iff]
  unfold defaultFindings
  cases given : field.default? with
  | none => simp
  | some value =>
    cases spelled : field.scalarType? with
    | none => simp
    | some type =>
      have compared := value.exists_misfit?_iff type
      cases checked : value.misfit? type with
      | error failure => simpa [checked, bind, Except.bind] using compared
      | ok finding? =>
        cases finding? <;> simpa [checked, bind, Except.bind] using compared

/-- Only the comparison of a default can fail. -/
theorem exists_validate_iff (field : Field) :
    (∃ found, field.validate = .ok found) ↔ ¬ field.HasOversizedDefault := by
  simp only [validate, exists_bind_eq_ok_iff, Except.ok.injEq, exists_eq', and_true,
    exists_defaultFindings_iff]

end Field

namespace Model

theorem exists_fieldFindings_iff (position : Nat) (fields : List Field) :
    (∃ found, fieldFindings position fields = .ok found) ↔
      ∀ field ∈ fields, ¬ field.HasOversizedDefault := by
  induction fields generalizing position with
  | nil => simp [fieldFindings]
  | cons field fields ih =>
    rw [List.forall_mem_cons, ← field.exists_validate_iff, ← ih (position + 1)]
    simp only [fieldFindings, exists_bind_eq_ok_iff, Except.ok.injEq, exists_eq', and_true,
      exists_and_right]

theorem exists_validate_iff (model : Model) :
    (∃ found, model.validate = .ok found) ↔
      ∀ field ∈ model.fields, ¬ field.HasOversizedDefault := by
  simp only [validate, exists_bind_eq_ok_iff, Except.ok.injEq, exists_eq', and_true,
    exists_fieldFindings_iff]

end Model

theorem exists_modelDiagnostics_iff (models : List Model) :
    (∃ found, modelDiagnostics models = .ok found) ↔
      ∀ model ∈ models, ∀ field ∈ model.fields, ¬ field.HasOversizedDefault := by
  induction models with
  | nil => simp [modelDiagnostics]
  | cons model models ih =>
    rw [List.forall_mem_cons, ← model.exists_validate_iff, ← ih]
    simp only [modelDiagnostics, exists_bind_eq_ok_iff, Except.ok.injEq, exists_eq', and_true,
      exists_and_right]

theorem Schema.exists_diagnostics_iff (schema : Schema) :
    (∃ found, schema.diagnostics = .ok found) ↔
      ∀ model ∈ schema.models, ∀ field ∈ model.fields, ¬ field.HasOversizedDefault := by
  simp only [diagnostics, exists_bind_eq_ok_iff, Except.ok.injEq, exists_eq', and_true,
    exists_modelDiagnostics_iff]

/-- Where validation gives diagnostics of a model that is not acceptable, one of them is an error. -/
theorem Model.hasErrors_of_not_isAcceptable {model : Model} {found : List Diagnostic}
    (validated : model.validate = .ok found) (bad : ¬ model.IsAcceptable) :
    hasErrors found = true := by
  rw [← model.passes_validate_iff, validated, Verdict.passes_ok_iff] at bad
  simpa using bad

/-- A model that is not acceptable is refused, unless it cannot be validated at all. -/
theorem Edit.apply_of_not_isAcceptable {schema next : Schema} {newId : String} {edit : Edit}
    {candidate : Model} (proposed : edit.propose schema newId = .ok ⟨.model candidate, next⟩)
    (bad : ¬ candidate.IsAcceptable) :
    (∃ found, hasErrors found = true ∧
        edit.apply schema newId = .error (.invalidModel candidate.name found)) ∨
      ((∃ field ∈ candidate.fields, field.HasOversizedDefault) ∧
        edit.apply schema newId = .error (.unchecked .integerTooLarge)) := by
  cases validated : candidate.validate with
  | ok found =>
    have blocked := Model.hasErrors_of_not_isAcceptable validated bad
    exact .inl ⟨found, blocked, apply_of_hasErrors proposed validated blocked⟩
  | error failure =>
    cases failure
    refine .inr ⟨?_, apply_of_failure proposed validated⟩
    by_contra none
    have ends := candidate.exists_validate_iff.mpr (by simpa using none)
    simp [validated] at ends

/-- Validation gives diagnostics of a field, of a model and of a schema exactly where no fractional
field has a default beyond the range of floating point. A model at the gate that is not acceptable
is refused with its errors but for such a default, and a relationship with an error always. -/
theorem validation_ends_unless_oversized (field : Field) (model : Model) (schema : Schema)
    (newId : String) (edit : Edit) :
    ((∃ found, field.validate = .ok found) ↔ ¬ field.HasOversizedDefault) ∧
      ((∃ found, model.validate = .ok found) ↔
        ∀ field ∈ model.fields, ¬ field.HasOversizedDefault) ∧
      ((∃ found, schema.diagnostics = .ok found) ↔
        ∀ model ∈ schema.models, ∀ field ∈ model.fields, ¬ field.HasOversizedDefault) ∧
      (∀ {candidate : Model} {next : Schema},
        edit.propose schema newId = .ok ⟨.model candidate, next⟩ → ¬ candidate.IsAcceptable →
        (∃ found, hasErrors found = true ∧
            edit.apply schema newId = .error (.invalidModel candidate.name found)) ∨
          ((∃ field ∈ candidate.fields, field.HasOversizedDefault) ∧
            edit.apply schema newId = .error (.unchecked .integerTooLarge))) ∧
      ∀ {candidate : Relationship} {next : Schema},
        edit.propose schema newId = .ok ⟨.relationship candidate, next⟩ →
        hasErrors (candidate.validate schema.models) = true →
        edit.apply schema newId = .error (.invalidRelationship candidate.source candidate.target
          (candidate.validate schema.models)) := by
  refine ⟨field.exists_validate_iff, model.exists_validate_iff, schema.exists_diagnostics_iff,
    ?_, ?_⟩
  · intro candidate next proposed bad
    exact Edit.apply_of_not_isAcceptable proposed bad
  · intro candidate next proposed blocked
    exact Edit.apply_of_hasErrors proposed rfl blocked

/-- A field, a model and a schema without defaults are validated. A model under a malformed name, and
a relationship between models that are not there, are refused. -/
theorem validation_ends_unless_oversized_chart :
    (∃ found, Field.validate ⟨"size", "Float", true, false, [], none⟩ = .ok found) ∧
      (∃ found, Edit.apply .empty "m" (.addModel ⟨"", "chart", [], []⟩ true) =
        .error (.invalidModel "chart" found) ∧ hasErrors found = true) ∧
      ∃ found, Edit.apply .empty "r" (.addRelationship ⟨"", "a", "b", .oneToOne, .empty⟩ true) =
        .error (.invalidRelationship "a" "b" found) := by
  have malformed : ¬ (⟨"", "chart", [], []⟩ : Model).IsAcceptable :=
    fun acceptable => absurd acceptable.name (by decide)
  have ends := validation_ends_unless_oversized ⟨"size", "Float", true, false, [], none⟩
    ⟨"", "chart", [], []⟩ .empty
  refine ⟨(ends "m" (.deleteModel "m")).1.mpr ?_, ?_, ?_⟩
  · rintro ⟨-, n, given, -⟩
    cases given
  · obtain ⟨-, -, -, models, -⟩ := ends "m" (.addModel ⟨"", "chart", [], []⟩ true)
    obtain ⟨found, blocked, made⟩ | ⟨⟨field, inside, -⟩, -⟩ := models rfl malformed
    · exact ⟨found, made, blocked⟩
    · cases inside
  · obtain ⟨-, -, -, -, relationships⟩ :=
      ends "r" (.addRelationship ⟨"", "a", "b", .oneToOne, .empty⟩ true)
    exact ⟨_, relationships rfl (by decide)⟩

/-- A field whose default is the smallest power of ten beyond the range of floating point. -/
def oversizedRatio : Field := ⟨"ratio", "Float", true, false, [], some (.integer (10 ^ 309))⟩

/-- Neither the field nor a schema with it can be validated, and its model is not even refused. -/
theorem validation_fails_oversizedRatio :
    oversizedRatio.validate = .error .integerTooLarge ∧
      Model.validate ⟨"m", "Chart", [oversizedRatio], []⟩ = .error .integerTooLarge ∧
      Schema.diagnostics ⟨[⟨"m", "Chart", [oversizedRatio], []⟩], []⟩ =
        .error .integerTooLarge ∧
      Edit.apply .empty "m" (.addModel ⟨"", "Chart", [oversizedRatio], []⟩ true) =
        .error (.unchecked .integerTooLarge) := by
  decide +kernel

end SchemaDesk
