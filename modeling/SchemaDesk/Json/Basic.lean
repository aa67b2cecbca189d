import SchemaDesk.Number.Binary64

/-!
# JSON values

The values that JSON texts denote, with whole numbers of any size kept apart
from floating-point numbers. The members of an object keep their order, and of
two members with one key the later counts. Ready-made things of a type `Leaf`
may stand wherever a value may; a value that was read from a text has none.
-/

namespace SchemaDesk.Json

inductive Value (Leaf : Type) where
  | null
  | boolean (value : Bool)
  | integer (value : Int)
  | float (value : Number.Binary64)
  | text (value : String)
  | list (items : List (Value Leaf))
  | object (members : List (String × Value Leaf))
  | leaf (value : Leaf)
deriving Repr

/-- The value under a key; the last member with that key counts. -/
def member? {β : Type} (members : List (String × β)) (key : String) : Option β :=
  match members with
  | [] => none
  | (name, value) :: rest =>
    match member? rest key with
    | some later => some later
    | none => if name = key then some value else none

/-- A key that no member has is not found. -/
theorem member?_eq_none_of_not_mem {β : Type} (members : List (String × β)) (key : String)
    (absent : key ∉ members.map (·.1)) : member? members key = none := by
  induction members with
  | nil => rfl
  | cons head rest ih =>
    simp only [List.map_cons, List.mem_cons, not_or] at absent
    simp [member?, ih absent.2, Ne.symm absent.1]

/-- A member at the end hides the earlier ones with its key. -/
theorem member?_append_self {β : Type} (members : List (String × β)) (key : String) (value : β) :
    member? (members ++ [(key, value)]) key = some value := by
  induction members with
  | nil => simp [member?]
  | cons head rest ih => simp [member?, ih]

end SchemaDesk.Json
