/-!
# Tables

Lists of keys with values, in the order in which the keys were first set. A key
that is set again keeps its place and takes the new value.
-/

namespace SchemaDesk.Table

variable {κ α : Type} [BEq κ]

/-- The entries with a value for a key. -/
def set (key : κ) (value : α) : List (κ × α) → List (κ × α)
  | [] => [(key, value)]
  | entry :: rest => if key == entry.1 then (key, value) :: rest else entry :: set key value rest

/-- The entries without those of a key. -/
def unset (key : κ) (entries : List (κ × α)) : List (κ × α) :=
  entries.filter fun entry => !(key == entry.1)

/-- A key that was set has the value it was given. -/
theorem lookup_set_self [LawfulBEq κ] (key : κ) (value : α) (entries : List (κ × α)) :
    (set key value entries).lookup key = some value := by
  induction entries with
  | nil => simp [set]
  | cons entry rest ih =>
    obtain ⟨other, old⟩ := entry
    cases same : key == other with
    | true => simp [set, same]
    | false => simpa [set, same, List.lookup_cons] using ih

/-- Setting a key leaves the others as they are. -/
theorem lookup_set_of_ne [LawfulBEq κ] {key other : κ} (value : α) (entries : List (κ × α))
    (differs : other ≠ key) : (set key value entries).lookup other = entries.lookup other := by
  have unequal : (other == key) = false := by simpa using differs
  induction entries with
  | nil => simp [set, List.lookup_cons, unequal]
  | cons entry rest ih =>
    obtain ⟨found, old⟩ := entry
    cases same : key == found with
    | true =>
      have equal : key = found := by simpa using same
      subst equal
      simp [set, List.lookup_cons, unequal]
    | false => simp [set, same, List.lookup_cons, ih]

/-- A key that was removed has no value. -/
theorem lookup_unset_self [LawfulBEq κ] (key : κ) (entries : List (κ × α)) :
    (unset key entries).lookup key = none := by
  rw [List.lookup_eq_none_iff]
  intro entry inside
  simpa [bne] using (List.mem_filter.mp inside).2

/-- Removing a key leaves the others as they are. -/
theorem lookup_unset_of_ne [LawfulBEq κ] {key other : κ} (entries : List (κ × α))
    (differs : other ≠ key) : (unset key entries).lookup other = entries.lookup other := by
  induction entries with
  | nil => rfl
  | cons entry rest ih =>
    obtain ⟨found, value⟩ := entry
    by_cases same : key = found
    · subst same
      have unequal : (other == key) = false := by simpa using differs
      simpa [unset, List.lookup_cons, unequal] using ih
    · have kept : (!(key == found)) = true := by simpa using same
      simp only [unset, List.filter_cons, kept, if_true, List.lookup_cons]
      rw [← ih]
      rfl

/-- A key that is new is set behind the others. -/
theorem set_of_not_mem [LawfulBEq κ] {key : κ} (value : α) {entries : List (κ × α)}
    (new : key ∉ entries.map (·.1)) : set key value entries = entries ++ [(key, value)] := by
  induction entries with
  | nil => rfl
  | cons entry rest ih =>
    rw [List.map_cons, List.mem_cons, not_or] at new
    have unequal : (key == entry.1) = false := by simpa using new.1
    simp [set, unequal, ih new.2]

/-- A key that is there is set in its place. -/
theorem map_fst_set_of_mem [LawfulBEq κ] {key : κ} (value : α) {entries : List (κ × α)}
    (there : key ∈ entries.map (·.1)) :
    (set key value entries).map (·.1) = entries.map (·.1) := by
  induction entries with
  | nil => cases there
  | cons entry rest ih =>
    cases same : key == entry.1 with
    | true =>
      have equal : key = entry.1 := by simpa using same
      simp [set, equal]
    | false =>
      have unequal : key ≠ entry.1 := by simpa using same
      have later : key ∈ rest.map (·.1) := (List.mem_cons.mp there).resolve_left unequal
      simp [set, same, ih later]

/-- Setting a key keeps keys distinct. -/
theorem nodup_set [LawfulBEq κ] (key : κ) (value : α) {entries : List (κ × α)}
    (distinct : (entries.map (·.1)).Nodup) : ((set key value entries).map (·.1)).Nodup := by
  by_cases there : key ∈ entries.map (·.1)
  · rwa [map_fst_set_of_mem value there]
  · rw [set_of_not_mem value there, List.map_append, List.nodup_append]
    refine ⟨distinct, List.pairwise_singleton _ _, fun other inside last added same => there ?_⟩
    rw [List.map_singleton, List.mem_singleton] at added
    obtain rfl : other = key := same.trans added
    exact inside

/-- Removing a key keeps keys distinct. -/
theorem nodup_unset (key : κ) {entries : List (κ × α)}
    (distinct : (entries.map (·.1)).Nodup) : ((unset key entries).map (·.1)).Nodup :=
  distinct.sublist (List.filter_sublist.map _)

/-- Where keys are distinct, a key has the values of its entries. -/
theorem lookup_eq_some_iff_mem [LawfulBEq κ] {entries : List (κ × α)}
    (distinct : (entries.map (·.1)).Nodup) {key : κ} {value : α} :
    entries.lookup key = some value ↔ (key, value) ∈ entries := by
  induction entries with
  | nil => simp
  | cons first rest ih =>
    obtain ⟨other, old⟩ := first
    rw [List.map_cons, List.nodup_cons] at distinct
    by_cases same : key = other
    · subst same
      have absent : (key, value) ∉ rest := fun later =>
        distinct.1 (List.mem_map.mpr ⟨_, later, rfl⟩)
      simp [absent, eq_comm]
    · have unequal : (key == other) = false := beq_false_of_ne same
      simp [List.lookup_cons, unequal, same, ih distinct.2]

end SchemaDesk.Table
