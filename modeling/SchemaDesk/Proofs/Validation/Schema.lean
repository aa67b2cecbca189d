import SchemaDesk.Proofs.Validation.Relationship

/-!
# What a valid schema is

A schema is valid if its diagnostics can be collected and none of them is an
error, which is so exactly if validation accepts every model and every
relationship by itself.
-/

namespace SchemaDesk

/-- The diagnostics can be collected, and none of them is an error. -/
def Schema.IsValid (schema : Schema) : Prop :=
  ∃ found, schema.diagnostics = .ok found ∧ ∀ item ∈ found, item.diagnostic.isError = false

/-- The diagnostics of models that are accepted one by one hold no error. -/
theorem modelDiagnostics_of_passes {models : List Model}
    (accepted : ∀ model ∈ models, model.validate.Passes) :
    ∃ found, modelDiagnostics models = .ok found ∧
      ∀ item ∈ found, item.diagnostic.isError = false := by
  induction models with
  | nil => exact ⟨[], rfl, by simp⟩
  | cons model models ih =>
    rw [List.forall_mem_cons] at accepted
    obtain ⟨here, checked, clean⟩ := accepted.1
    obtain ⟨later, collected, cleanLater⟩ := ih accepted.2
    refine ⟨here.map (⟨model.ownerName, ·⟩) ++ later, ?_, ?_⟩
    · simp [modelDiagnostics, checked, collected, bind, Except.bind]
    · intro item inside
      rcases List.mem_append.mp inside with inside | inside
      · obtain ⟨diagnostic, reported, rfl⟩ := List.mem_map.mp inside
        exact hasErrors_eq_false_iff.mp clean diagnostic reported
      · exact cleanLater item inside

/-- Where the diagnostics of models hold no error, every model is accepted. -/
theorem passes_of_modelDiagnostics {models : List Model} {found : List OwnedDiagnostic}
    (collected : modelDiagnostics models = .ok found)
    (clean : ∀ item ∈ found, item.diagnostic.isError = false) :
    ∀ model ∈ models, model.validate.Passes := by
  induction models generalizing found with
  | nil => simp
  | cons model models ih =>
    cases checked : model.validate with
    | error failure => simp [modelDiagnostics, checked, bind, Except.bind] at collected
    | ok here =>
      cases rest : modelDiagnostics models with
      | error failure => simp [modelDiagnostics, checked, rest, bind, Except.bind] at collected
      | ok later =>
        simp only [modelDiagnostics, checked, rest, bind, Except.bind,
          Except.ok.injEq] at collected
        subst collected
        rw [List.forall_mem_append, List.forall_mem_map] at clean
        rw [List.forall_mem_cons, checked, Verdict.passes_ok_iff, hasErrors_eq_false_iff]
        exact ⟨clean.1, ih rest clean.2⟩

namespace Schema

/-- The diagnostics of a relationship in its schema are those of its validation. -/
theorem forall_mem_relationshipDiagnostics (property : Diagnostic → Prop) {schema : Schema}
    {relationship : Relationship} :
    (∀ item ∈ schema.relationshipDiagnostics relationship, property item.diagnostic) ↔
      ∀ diagnostic ∈ relationship.validate schema.models, property diagnostic := by
  simp [relationshipDiagnostics]

/-- A schema is valid exactly if each of its models and relationships is. -/
theorem isValid_iff {schema : Schema} :
    schema.IsValid ↔
      (∀ model ∈ schema.models, model.validate.Passes) ∧
        ∀ relationship ∈ schema.relationships,
          relationship.IsSound schema.models ∧ relationship.IsComplete schema.models := by
  constructor
  · rintro ⟨found, collected, clean⟩
    unfold diagnostics at collected
    cases models : modelDiagnostics schema.models with
    | error failure => simp [models, bind, Except.bind] at collected
    | ok ofModels =>
      simp only [models, bind, Except.bind, Except.ok.injEq] at collected
      subst collected
      rw [List.forall_mem_append, List.forall_mem_flatMap] at clean
      refine ⟨passes_of_modelDiagnostics models clean.1, fun relationship inside => ?_⟩
      rw [← relationship.hasErrors_validate_eq_false_iff, hasErrors_eq_false_iff]
      exact (forall_mem_relationshipDiagnostics (·.isError = false)).mp
        (clean.2 relationship inside)
  · rintro ⟨accepted, related⟩
    obtain ⟨ofModels, models, clean⟩ := modelDiagnostics_of_passes accepted
    refine ⟨_, by simp only [diagnostics, models, bind, Except.bind]; rfl, ?_⟩
    rw [List.forall_mem_append, List.forall_mem_flatMap]
    refine ⟨clean, fun relationship inside => ?_⟩
    refine (forall_mem_relationshipDiagnostics (·.isError = false)).mpr ?_
    rw [← hasErrors_eq_false_iff, relationship.hasErrors_validate_eq_false_iff]
    exact related relationship inside

/-- Where models are accepted and relationships are sound, the diagnostics can be collected, and an
error among them is a missing field. -/
theorem diagnostics_of_isSound {schema : Schema}
    (accepted : ∀ model ∈ schema.models, model.validate.Passes)
    (sound : ∀ relationship ∈ schema.relationships, relationship.IsSound schema.models) :
    ∃ found, schema.diagnostics = .ok found ∧
      ∀ item ∈ found, item.diagnostic.isError = true →
        Relationship.ReportsMissingField item.diagnostic := by
  obtain ⟨ofModels, models, clean⟩ := modelDiagnostics_of_passes accepted
  refine ⟨_, by simp only [diagnostics, models, bind, Except.bind]; rfl, ?_⟩
  rw [List.forall_mem_append, List.forall_mem_flatMap]
  constructor
  · intro item inside blocking
    rw [clean item inside] at blocking
    cases blocking
  · intro relationship inside
    refine (forall_mem_relationshipDiagnostics fun diagnostic =>
      diagnostic.isError = true → Relationship.ReportsMissingField diagnostic).mpr ?_
    exact fun diagnostic => Relationship.reportsMissingField_of_isSound (sound relationship inside)

end Schema

end SchemaDesk
