import Mathlib.Data.Fintype.Defs
import SchemaDesk.Diagnostic.Basic

/-!
# What validation reports

A diagnostic is seen as a notice: how severe it is, how it is worded and where
it was made. Validation goes through lists and knows, at every entry, the
entries before it. What it finds on the way can be told position by position:
at position `i`, all that counts is what stands at `i` and at each `j < i`.
-/

namespace SchemaDesk

/-- What is seen of a diagnostic. -/
structure Notice where
  severity : Severity
  message : String
  location? : Option Location
deriving DecidableEq, Repr

namespace Notice

/-- An error at a part of an entity. -/
def errorAt (message entity : String) (path : List Segment) : Notice :=
  ⟨.error, message, some ⟨entity, path⟩⟩

/-- A warning that has no place. -/
def warning (message : String) : Notice :=
  ⟨.warning, message, none⟩

/-- A notice about a part, told of the entity that holds the part under the given path. -/
def under (notice : Notice) (entity : String) (path : List Segment) : Notice :=
  ⟨notice.severity, notice.message,
    some ⟨entity, path ++ (notice.location?.map (·.path)).getD []⟩⟩

end Notice

/-- The diagnostic as it is seen. -/
def Diagnostic.notice (diagnostic : Diagnostic) : Notice :=
  ⟨diagnostic.severity, diagnostic.message, diagnostic.location?⟩

theorem Diagnostic.notice_rebase (diagnostic : Diagnostic) (entity : String)
    (path : List Segment) :
    (diagnostic.rebase entity path).notice = diagnostic.notice.under entity path := by
  obtain ⟨finding, location?⟩ := diagnostic
  cases location? with
  | none => simp [rebase, notice, Notice.under, severity, message]
  | some location => rfl

variable {α β : Type}

/-- Some entry before the given one is related to it. -/
def HasEarlier (related : α → α → Prop) (entries : List α) (i : Fin entries.length) : Prop :=
  ∃ j < i, related entries[j] entries[i]

instance (related : α → α → Prop) [DecidableRel related] (entries : List α)
    (i : Fin entries.length) : Decidable (HasEarlier related entries i) :=
  inferInstanceAs (Decidable (∃ j < i, related entries[j] entries[i]))

/-- The entries before a position are those that stand at a smaller one. -/
theorem exists_mem_take_iff_hasEarlier (related : α → α → Prop) (entries : List α)
    (i : Fin entries.length) :
    (∃ other ∈ (entries.take i).reverse, related other entries[i]) ↔
      HasEarlier related entries i := by
  simp only [List.mem_reverse, List.mem_take_iff_getElem]
  constructor
  · rintro ⟨other, ⟨j, small, rfl⟩, holds⟩
    have bound : j < entries.length := by omega
    exact ⟨⟨j, bound⟩, by simpa [Fin.lt_def] using (by omega : j < i.val), holds⟩
  · rintro ⟨j, small, holds⟩
    exact ⟨entries[j], ⟨j, by have := j.isLt; omega, rfl⟩, holds⟩

/-- What is found at the positions of a list, one position after another. -/
def eachPosition (entries : List α) (found : Fin entries.length → List β) : List β :=
  (List.finRange entries.length).flatMap found

theorem eachPosition_cons (entry : α) (entries : List α)
    (found : Fin (entry :: entries).length → List β) :
    eachPosition (entry :: entries) found =
      found (0 : Fin (entries.length + 1)) ++ eachPosition entries fun i => found i.succ := by
  change (List.finRange (entries.length + 1)).flatMap found = _
  rw [List.finRange_succ, List.flatMap_cons, List.flatMap_map]
  rfl

/-- What a check finds at and after a position, given the entries before it, the last one first. -/
def sweep (check : List α → Nat → α → List β) (earlier : List α) (position : Nat) :
    List α → List β
  | [] => []
  | entry :: entries =>
    check earlier position entry ++ sweep check (entry :: earlier) (position + 1) entries

theorem sweep_eq_eachPosition_from (check : List α → Nat → α → List β) (earlier : List α)
    (position : Nat) (entries : List α) :
    sweep check earlier position entries =
      eachPosition entries fun i =>
        check ((entries.take i).reverse ++ earlier) (position + i) entries[i] := by
  induction entries generalizing earlier position with
  | nil => rfl
  | cons entry entries ih =>
    rw [sweep, ih, eachPosition_cons]
    congr 1
    refine congrArg (eachPosition entries) (funext fun i => ?_)
    simp [Nat.add_comm, Nat.add_left_comm]

/-- A check finds what it finds at each position, given the entries before that position. -/
theorem sweep_eq_eachPosition (check : List α → Nat → α → List β) (entries : List α) :
    sweep check [] 0 entries =
      eachPosition entries fun i => check (entries.take i).reverse i entries[i] := by
  simp only [sweep_eq_eachPosition_from, List.append_nil, Nat.zero_add]

/-- What holds of everything that is found at an entry holds of everything that is found. -/
theorem forall_mem_sweep {holds : β → Prop} {check : List α → Nat → α → List β}
    (earlier : List α) (position : Nat) {entries : List α}
    (each : ∀ before i entry, entries[i]? = some entry →
      ∀ found ∈ check before (position + i) entry, holds found) :
    ∀ found ∈ sweep check earlier position entries, holds found := by
  rw [sweep_eq_eachPosition_from]
  intro found reported
  obtain ⟨i, -, here⟩ := List.mem_flatMap.mp reported
  exact each _ i entries[i] (List.getElem?_eq_getElem i.isLt) found here

theorem forall_mem_ite {holds : β → Prop} {condition : Prop} [Decidable condition]
    {found others : List β} (here : ∀ item ∈ found, holds item)
    (there : ∀ item ∈ others, holds item) :
    ∀ item ∈ if condition then found else others, holds item := by
  split
  · exact here
  · exact there

theorem map_eachPosition {γ : Type} (f : β → γ) (entries : List α)
    (found : Fin entries.length → List β) :
    (eachPosition entries found).map f = eachPosition entries fun i => (found i).map f := by
  simp [eachPosition, List.map_flatMap]

end SchemaDesk
