import SchemaDesk.Payload.Changes

/-!
# Readings that succeed

A reading that is put together from others finds a value exactly if all of them
do. Where every part is accepted, the whole is.
-/

namespace SchemaDesk

namespace Reading

variable {α β : Type}

theorem combine_eq_ok_iff {f? : Except (List Issue) (α → β)} {value? : Except (List Issue) α}
    {result : β} :
    combine f? value? = .ok result ↔
      ∃ f value, f? = .ok f ∧ value? = .ok value ∧ f value = result := by
  cases f? <;> cases value? <;> simp [combine]

/-- Two readings in a row succeed if the second does from where the first one stops. -/
theorem seq_eq_ok_iff {first : Reading (α → β)} {second : Reading α} {used : Nat} {result : β} :
    ((first <*> second) used).1 = .ok result ↔
      ∃ f value, (first used).1 = .ok f ∧ (second (first used).2).1 = .ok value ∧
        f value = result :=
  combine_eq_ok_iff

theorem map_eq_ok_iff {f : α → β} {reading : Reading α} {used : Nat} {result : β} :
    ((f <$> reading) used).1 = .ok result ↔
      ∃ value, (reading used).1 = .ok value ∧ f value = result := by
  refine combine_eq_ok_iff.trans ?_
  simp

/-- Applying a function to what is accepted is accepted. -/
@[simp]
theorem map_accept (f : α → β) (value : α) : f <$> accept value = accept (f value) := rfl

@[simp]
theorem seq_accept (f : α → β) (value : α) : accept f <*> accept value = accept (f value) := rfl

@[simp]
theorem under_accept (step : Segment) (value : α) :
    (accept value).under step = accept value := rfl

end Reading

open Reading

/-- Changes do not reach the id of a model. -/
theorem Model.id_of_readChanges {model changed : Model} {changes : Changes}
    (read : (model.readChanges changes).run = .ok changed) : changed.id = model.id := by
  obtain ⟨_, _, toFields, -, rfl⟩ := seq_eq_ok_iff.mp read
  obtain ⟨_, _, toName, -, rfl⟩ := seq_eq_ok_iff.mp toFields
  obtain ⟨_, _, toId, -, rfl⟩ := seq_eq_ok_iff.mp toName
  obtain ⟨_, kept, rfl⟩ := map_eq_ok_iff.mp toId
  cases kept
  rfl

/-- Changes do not reach the id of a relationship. -/
theorem Relationship.id_of_readChanges {relationship changed : Relationship} {changes : Changes}
    (read : (relationship.readChanges changes).run = .ok changed) :
    changed.id = relationship.id := by
  obtain ⟨_, _, toCardinality, -, rfl⟩ := seq_eq_ok_iff.mp read
  obtain ⟨_, _, toTarget, -, rfl⟩ := seq_eq_ok_iff.mp toCardinality
  obtain ⟨_, _, toSource, -, rfl⟩ := seq_eq_ok_iff.mp toTarget
  obtain ⟨_, _, toId, -, rfl⟩ := seq_eq_ok_iff.mp toSource
  obtain ⟨_, kept, rfl⟩ := map_eq_ok_iff.mp toId
  cases kept
  rfl

end SchemaDesk
