import SchemaDesk.Proofs.Edit.Proposal

/-!
# Edits that are refused

An edit that proposes a schema is refused if the entity at its gate has an
error, and the refusal holds the diagnostics of that entity. The models and the
relationships of a schema can be put before the gate by adding them once more.
-/

namespace SchemaDesk

/-- The error is the refusal of an invalid entity. -/
def EditError.isRefusal : EditError → Bool
  | .invalidModel _ _ | .invalidRelationship _ _ _ => true
  | .unknownModel _ | .unknownRelationship _ | .unknownKeys _ _ | .malformed _ | .noFieldAt
  | .noFieldToMove _ | .oversizedIndex | .oversizedPosition | .unchecked _ => false

namespace Edit

variable {schema next : Schema} {newId : String} {edit : Edit} {gate : Gate}

/-- An entity with an error is refused. -/
theorem apply_of_hasErrors {found : List Diagnostic}
    (proposed : edit.propose schema newId = .ok ⟨gate, next⟩)
    (validated : gate.diagnostics schema.models = .ok found) (blocked : hasErrors found = true) :
    edit.apply schema newId = .error (gate.refusal found) := by
  simp [apply, proposed, Gate.check, validated, blocked, bind, Except.bind]

/-- An entity without errors is accepted. -/
theorem apply_of_clean {found : List Diagnostic}
    (proposed : edit.propose schema newId = .ok ⟨gate, next⟩)
    (validated : gate.diagnostics schema.models = .ok found) (clean : hasErrors found = false) :
    edit.apply schema newId = .ok next := by
  simp [apply, proposed, Gate.check, validated, clean, bind, Except.bind]

/-- An entity that cannot be validated stops the edit. -/
theorem apply_of_failure {failure : ValidationFailure}
    (proposed : edit.propose schema newId = .ok ⟨gate, next⟩)
    (failed : gate.diagnostics schema.models = .error failure) :
    edit.apply schema newId = .error (.unchecked failure) := by
  simp [apply, proposed, Gate.check, failed, bind, Except.bind]

/-- Where what stands at the gate can be validated, an edit that proposes a schema is refused
exactly if an error is found. -/
theorem refused_iff_hasErrors {found : List Diagnostic}
    (proposed : edit.propose schema newId = .ok ⟨gate, next⟩)
    (validated : gate.diagnostics schema.models = .ok found) :
    (∃ error, edit.apply schema newId = .error error ∧ error.isRefusal = true) ↔
      hasErrors found = true := by
  cases blocked : hasErrors found with
  | true =>
    rw [apply_of_hasErrors proposed validated blocked]
    refine iff_of_true ⟨_, rfl, ?_⟩ rfl
    cases gate <;> rfl
  | false =>
    rw [apply_of_clean proposed validated blocked]
    exact iff_of_false (by rintro ⟨_, made, -⟩; cases made) (by decide)

end Edit

end SchemaDesk
