import SchemaDesk.Proofs.Validation.Model

/-!
# What a valid field is

Validation accepts a field exactly if its name has the shape of a field name,
its type is known, its default can be compared with the type and fits it, its
attributes are known and distinct, and it is no list if it is a key.
-/

namespace SchemaDesk

/-- What may keep a default from fitting. -/
theorem DefaultValue.finding_of_misfit? {value : DefaultValue} {type : ScalarType}
    {finding : Finding} (misfit : value.misfit? type = .ok (some finding)) :
    finding ∈ [.defaultUnfit type.name, .defaultNotBoolean, .defaultNotDate] := by
  have ofTest {fits : Bool} {other : Finding}
      (reported : (if fits then none else some other) = some finding) : finding = other := by
    cases fits
    · cases reported
      rfl
    · cases reported
  cases type with
  | int | bigInt | boolean | dateTime =>
    rw [ofTest (Except.ok.inj misfit)]
    simp
  | float | decimal =>
    cases checked : value.fitsDecimal with
    | error failure => simp [misfit?, checked, bind, Except.bind] at misfit
    | ok fits =>
      simp only [misfit?, checked, bind, Except.bind] at misfit
      rw [ofTest (Except.ok.inj misfit)]
      simp
  | string | json | bytes => cases Except.ok.inj misfit

/-- Whatever keeps a default from fitting is an error. -/
theorem DefaultValue.severity_of_misfit? {value : DefaultValue} {type : ScalarType}
    {finding : Finding} (misfit : value.misfit? type = .ok (some finding)) :
    finding.severity = .error := by
  have listed := finding_of_misfit? misfit
  simp only [List.mem_cons, List.not_mem_nil, or_false] at listed
  rcases listed with rfl | rfl | rfl <;> rfl

namespace Field

theorem hasErrors_nameFindings_eq_false_iff (field : Field) :
    hasErrors field.nameFindings = false ↔ Validation.isFieldName field.name.toList = true :=
  hasErrors_shapeFindings_eq_false_iff rfl rfl (by decide) field.name

theorem hasErrors_typeFindings_eq_false_iff (field : Field) :
    hasErrors field.typeFindings = false ↔ field.scalarType?.isSome = true := by
  unfold typeFindings
  by_cases empty : field.type.isEmpty
  · have unknown : field.scalarType? = none := by
      rw [scalarType?, String.isEmpty_iff.mp empty]
      decide
    rw [if_pos empty, unknown]
    decide
  · rw [if_neg empty]
    split
    · next known => simp [known, hasErrors]
    · next unknown =>
      simp only [unknown]
      simp [hasErrors, reportAt, Diagnostic.isError, Diagnostic.severity, Diagnostic.located,
        Finding.severity]

/-- The default can be compared with the type and fits it; of an unknown type any default does. -/
def DefaultFits (field : Field) : Prop :=
  ∀ value type, field.default? = some value → field.scalarType? = some type →
    value.misfit? type = .ok none

theorem passes_defaultFindings_iff (field : Field) :
    field.defaultFindings.Passes ↔ field.DefaultFits := by
  unfold defaultFindings DefaultFits
  cases given : field.default? with
  | none => simp [Verdict.passes_ok_iff, hasErrors]
  | some value =>
    cases known : field.scalarType? with
    | none => simp [Verdict.passes_ok_iff, hasErrors]
    | some type =>
      cases checked : value.misfit? type with
      | error failure => simp [checked, bind, Except.bind, Verdict.Passes]
      | ok finding? =>
        cases finding? with
        | none => simp [checked, bind, Except.bind, Verdict.passes_ok_iff, hasErrors]
        | some finding =>
          have blocking := DefaultValue.severity_of_misfit? checked
          simp [checked, bind, Except.bind, Verdict.passes_ok_iff, hasErrors, reportAt,
            Diagnostic.isError, Diagnostic.severity, Diagnostic.located, blocking]

theorem hasErrors_tokenFindings_eq_false_iff (earlier tokens : List String) (position : Nat) :
    hasErrors (tokenFindings earlier position tokens) = false ↔
      (∀ token ∈ tokens, token ∈ fieldAttributes) ∧
        tokens.Nodup ∧ ∀ token ∈ tokens, ∀ other ∈ earlier, other ≠ token := by
  induction tokens generalizing earlier position with
  | nil => simp [tokenFindings, hasErrors]
  | cons token tokens ih =>
    have pairs : ((∀ other ∈ earlier, other ≠ token) ∧ tokens.Nodup ∧
        ∀ entry ∈ tokens, ∀ other ∈ token :: earlier, other ≠ entry) ↔
          (token :: tokens).Nodup ∧ ∀ entry ∈ token :: tokens, ∀ other ∈ earlier, other ≠ entry :=
      pairwise_cons_and_apart_iff (· ≠ ·)
    simp only [tokenFindings, hasErrors_append, Bool.or_eq_false_iff, ih]
    rw [hasErrors_ite_ite_eq_false_iff rfl rfl, Bool.not_eq_true, Bool.not_eq_false',
      List.contains_iff_mem, List.contains_iff_mem, ← List.forall_mem_ne',
      List.forall_mem_cons (p := (· ∈ fieldAttributes)), ← pairs]
    constructor
    · rintro ⟨⟨known, apart⟩, others, distinct, rest⟩
      exact ⟨⟨known, others⟩, apart, distinct, rest⟩
    · rintro ⟨⟨known, others⟩, apart, distinct, rest⟩
      exact ⟨⟨known, apart⟩, others, distinct, rest⟩

/-- A key that is unique as well is only warned of; a list that is a key is an error. -/
theorem hasErrors_attributeFindings_eq_false_iff (field : Field) :
    hasErrors field.attributeFindings = false ↔
      ("id" ∈ field.attributes → field.isList = false) := by
  have warned : hasErrors (if (field.attributes.contains "id" &&
      field.attributes.contains "unique") = true then
        [reportAt .uniqueImplied [.key "attributes"]] else []) = false := by
    split <;> rfl
  unfold attributeFindings
  rw [hasErrors_append, warned, Bool.false_or, hasErrors_ite_eq_false_iff rfl]
  simp

/-- What validation asks of a field. -/
structure IsAcceptable (field : Field) : Prop where
  name : Validation.isFieldName field.name.toList = true
  type : field.scalarType?.isSome = true
  default : field.DefaultFits
  known : ∀ token ∈ field.attributes, token ∈ fieldAttributes
  distinct : field.attributes.Nodup
  key : "id" ∈ field.attributes → field.isList = false

/-- Validation accepts exactly the acceptable fields. -/
theorem passes_validate_iff (field : Field) : field.validate.Passes ↔ field.IsAcceptable := by
  have default := field.passes_defaultFindings_iff
  -- Only the check of the default can fail to end.
  cases checked : field.defaultFindings with
  | error failure =>
    rw [checked] at default
    have blocked : ¬ field.DefaultFits := fun fits => by
      simpa [Verdict.Passes] using default.mpr fits
    simp only [validate, checked, bind, Except.bind, Verdict.Passes, reduceCtorEq, false_and,
      exists_false, false_iff]
    exact fun acceptable => blocked acceptable.default
  | ok found =>
    rw [checked, Verdict.passes_ok_iff] at default
    simp only [validate, checked, bind, Except.bind, Verdict.passes_ok_iff, hasErrors_append,
      Bool.or_eq_false_iff, hasErrors_nameFindings_eq_false_iff,
      hasErrors_typeFindings_eq_false_iff, default, hasErrors_tokenFindings_eq_false_iff,
      hasErrors_attributeFindings_eq_false_iff]
    constructor
    · rintro ⟨⟨⟨⟨name, type⟩, fits⟩, known, distinct, -⟩, key⟩
      exact ⟨name, type, fits, known, distinct, key⟩
    · rintro ⟨name, type, fits, known, distinct, key⟩
      exact ⟨⟨⟨⟨name, type⟩, fits⟩, known, distinct, by simp⟩, key⟩

end Field

namespace BlockAttribute

/-- Validation accepts exactly the known attributes that have a value if they need one. -/
theorem hasErrors_validate_eq_false_iff (mark : BlockAttribute) :
    hasErrors mark.validate = false ↔
      ∃ kind, mark.kind? = some kind ∧ (kind.requiresValue = true → mark.value ≠ "") := by
  unfold validate
  cases known : mark.kind? with
  | none => simp [hasErrors, Diagnostic.isError, Diagnostic.severity, Diagnostic.located,
      Finding.severity]
  | some kind =>
    dsimp only
    rw [hasErrors_ite_eq_false_iff rfl]
    simp

end BlockAttribute

end SchemaDesk
