/-!
# Positions in lists

Positions are whole numbers; a negative one counts from the end. Inserting
moves a position that is out of range to the nearer end, while replacing and
removing need a position that holds an entry.
-/

namespace SchemaDesk.Position

/-- The place of the entry at a position in a list of the given length. -/
def place? (length : Nat) (position : Int) : Option Nat :=
  if 0 ≤ position ∧ position < length then some position.toNat
  else if position < 0 ∧ 0 ≤ length + position then some (length + position).toNat
  else none

/-- The place at which an entry is inserted into a list of the given length. -/
def insertionPlace (length : Nat) (position : Int) : Nat :=
  if 0 ≤ position then min position.toNat length
  else (length + position).toNat

variable {α : Type}

/-- The list with an entry inserted. -/
def insert (entries : List α) (position : Int) (entry : α) : List α :=
  entries.insertIdx (insertionPlace entries.length position) entry

/-- The list with the entry at a position replaced. -/
def replace? (entries : List α) (position : Int) (entry : α) : Option (List α) :=
  (place? entries.length position).map fun place => entries.set place entry

/-- The list without the entry at a position. -/
def remove? (entries : List α) (position : Int) : Option (List α) :=
  (place? entries.length position).map fun place => entries.eraseIdx place

/-- The list with the entry at one position taken out and inserted at another. -/
def move? (entries : List α) (source target : Int) : Option (List α) := do
  let place ← place? entries.length source
  let entry ← entries[place]?
  some (insert (entries.eraseIdx place) target entry)

/-- A position holds an entry exactly if it lies between minus the length and the length. -/
theorem place?_isSome_iff (length : Nat) (position : Int) :
    (place? length position).isSome = true ↔ -(length : Int) ≤ position ∧ position < length := by
  unfold place?
  split
  · simp; omega
  · split
    · simp; omega
    · simp; omega

/-- The place of an entry lies in the list. -/
theorem place?_lt {length place : Nat} {position : Int}
    (found : place? length position = some place) :
    place < length := by
  unfold place? at found
  split at found
  · simp at found; omega
  · split at found
    · simp at found; omega
    · simp at found

/-- An entry is never inserted behind the end. -/
theorem insertionPlace_le (length : Nat) (position : Int) :
    insertionPlace length position ≤ length := by
  unfold insertionPlace
  split <;> omega

end SchemaDesk.Position
