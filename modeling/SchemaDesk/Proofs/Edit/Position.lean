import Mathlib.Data.List.Perm.Basic
import SchemaDesk.Edit.Basic

/-!
# Entries after a change of position

Inserting keeps all entries and adds one, removing keeps the order of those
that stay, and moving only reorders. An entry that was inserted stands at one
position among the others, and from this position it can be removed or moved
again.
-/

namespace SchemaDesk

namespace Position

variable {α : Type}

theorem insert_perm (entries : List α) (position : Int) (entry : α) :
    (insert entries position entry).Perm (entry :: entries) :=
  List.perm_insertIdx _ _ (insertionPlace_le _ _)

theorem remove?_sublist {entries rest : List α} {position : Int}
    (removed : remove? entries position = some rest) : rest.Sublist entries := by
  obtain ⟨place, -, rfl⟩ := Option.map_eq_some_iff.mp removed
  exact List.eraseIdx_sublist entries place

theorem move?_perm {entries moved : List α} {source target : Int}
    (made : move? entries source target = some moved) : moved.Perm entries := by
  unfold move? at made
  obtain ⟨place, found, made⟩ := Option.bind_eq_some_iff.mp made
  obtain ⟨entry, taken, made⟩ := Option.bind_eq_some_iff.mp made
  cases made
  obtain ⟨inside, rfl⟩ := List.getElem?_eq_some_iff.mp taken
  exact (insert_perm _ target _).trans (List.getElem_cons_eraseIdx_perm inside)

/-- Where an entry comes to stand when it is inserted among so many others: at the end unless a
position is given, and never outside. -/
def landing (others : Nat) : Option Int → Int
  | none => others
  | some position => if 0 ≤ position then min position others else max 0 (others + position)

/-- The entries are the others, in their order, and one more that stands at a position. -/
structure IsInsertion (others : List α) (position : Int) (entry : α) (entries : List α) : Prop where
  bounds : 0 ≤ position ∧ position ≤ others.length
  here : entries[position.toNat]? = some entry
  others : entries.eraseIdx position.toNat = others

theorem insertionPlace_eq_landing (length : Nat) (position : Int) :
    insertionPlace length position = landing length (some position) := by
  show _ = if 0 ≤ position then min position length else max 0 (length + position)
  unfold insertionPlace
  split <;> omega

theorem isInsertion_insertIdx {others : List α} {place : Nat} (bound : place ≤ others.length)
    (entry : α) : IsInsertion others place entry (others.insertIdx place entry) where
  bounds := by omega
  here := by simp [List.getElem?_insertIdx_self, bound]
  others := List.eraseIdx_insertIdx_self entry

/-- An entry that is inserted comes to stand where it lands. -/
theorem isInsertion_insert (others : List α) (position : Int) (entry : α) :
    IsInsertion others (landing others.length (some position)) entry
      (insert others position entry) := by
  rw [← insertionPlace_eq_landing]
  exact isInsertion_insertIdx (insertionPlace_le _ _) entry

/-- An entry that stands somewhere was inserted there. -/
theorem isInsertion_eraseIdx {entries : List α} {place : Nat} (bound : place < entries.length) :
    IsInsertion (entries.eraseIdx place) place entries[place] entries := by
  have room : place ≤ (entries.eraseIdx place).length := by
    rw [List.length_eraseIdx_of_lt bound]
    omega
  have inserted := isInsertion_insertIdx room entries[place]
  rwa [List.insertIdx_eraseIdx_getElem bound] at inserted

/-- A position that holds an entry, counted from the start. -/
theorem place?_eq_emod {length : Nat} {position : Int}
    (inside : -(length : Int) ≤ position ∧ position < length) :
    place? length position = some (position % length).toNat := by
  unfold place?
  split
  · next front => rw [Int.emod_eq_of_lt front.1 front.2]
  · next back =>
    have shifted : (position + length) % length = position + length :=
      Int.emod_eq_of_lt (by omega) (by omega)
    rw [Int.add_emod_right] at shifted
    rw [if_pos (by omega), shifted, Int.add_comm]

namespace IsInsertion

variable {others entries : List α} {position : Int} {entry : α}

theorem inside (inserted : IsInsertion others position entry entries) :
    position.toNat < entries.length :=
  (List.getElem?_eq_some_iff.mp inserted.here).1

theorem place?_eq (inserted : IsInsertion others position entry entries) :
    place? entries.length position = some position.toNat := by
  have inside := inserted.inside
  have front := inserted.bounds.1
  rw [place?, if_pos (by omega)]

theorem insert_eq (inserted : IsInsertion others position entry entries) :
    insert others position entry = entries := by
  obtain ⟨bound, here⟩ := List.getElem?_eq_some_iff.mp inserted.here
  have place : insertionPlace others.length position = position.toNat := by
    have bounds := inserted.bounds
    rw [insertionPlace, if_pos bounds.1]
    omega
  rw [insert, place, ← inserted.others, ← here, List.insertIdx_eraseIdx_getElem bound]

/-- Removing the entry leaves the others. -/
theorem remove?_eq (inserted : IsInsertion others position entry entries) :
    remove? entries position = some others := by
  rw [remove?, inserted.place?_eq, ← inserted.others]
  rfl

/-- Moving the entry inserts it elsewhere among the others. -/
theorem move?_eq (inserted : IsInsertion others position entry entries) (target : Int) :
    move? entries position target = some (insert others target entry) := by
  simp [move?, inserted.place?_eq, inserted.here, inserted.others]

end IsInsertion

/-- An entry that is moved stands at one position among the others before and lands at another one
among the same others afterwards. -/
theorem exists_isInsertion_of_inside {entries : List α} {source : Int}
    (inside : -(entries.length : Int) ≤ source ∧ source < entries.length) :
    ∃ others entry, others.length = entries.length - 1 ∧
      IsInsertion others (source % entries.length) entry entries ∧
      ∀ target, move? entries source target = some (insert others target entry) := by
  have placed := place?_eq_emod inside
  have bound := place?_lt placed
  have front : 0 ≤ source % entries.length := Int.emod_nonneg _ (by omega)
  have stands := isInsertion_eraseIdx bound
  rw [Int.toNat_of_nonneg front] at stands
  refine ⟨_, _, List.length_eraseIdx_of_lt bound, stands, fun target => ?_⟩
  rw [← stands.move?_eq target, move?, move?, placed, stands.place?_eq]

end Position

theorem isInsertion_insertField (fields : List Field) (position? : Option Int) (field : Field) :
    Position.IsInsertion fields (Position.landing fields.length position?) field
      (insertField fields position? field) := by
  cases position? with
  | none =>
    have atEnd := Position.isInsertion_insertIdx (Nat.le_refl fields.length) field
    rwa [List.insertIdx_length_self] at atEnd
  | some position => exact Position.isInsertion_insert fields position field

theorem insertField_perm (fields : List Field) (position? : Option Int) (field : Field) :
    (insertField fields position? field).Perm (field :: fields) := by
  cases position? with
  | none => exact List.perm_append_singleton field fields
  | some position => exact Position.insert_perm fields position field

theorem subset_insertField (fields : List Field) (position? : Option Int) (field : Field) :
    fields ⊆ insertField fields position? field :=
  List.Subset.trans (List.subset_cons_self field fields)
    (insertField_perm fields position? field).symm.subset

end SchemaDesk
