import SchemaDesk.Proofs.Json.Notation
import SchemaDesk.Proofs.Text.Quoted

/-!
# Characters of a document

A document holds line feeds but no other control characters below the space,
because strings escape them. So unifying line ends leaves a document as it is.
-/

namespace SchemaDesk

namespace Text

/-- No character but the line feed lies below the space. -/
def IsPlain (text : List Char) : Prop :=
  ∀ c ∈ text, c = '\n' ∨ 32 ≤ c.toNat

theorem isPlain_nil : IsPlain [] := nofun

theorem isPlain_append {first second : List Char} :
    IsPlain (first ++ second) ↔ IsPlain first ∧ IsPlain second :=
  List.forall_mem_append

theorem isPlain_cons {c : Char} {text : List Char} :
    IsPlain (c :: text) ↔ (c = '\n' ∨ 32 ≤ c.toNat) ∧ IsPlain text :=
  List.forall_mem_cons

theorem isPlain_replicate {count : Nat} {c : Char} (plain : 32 ≤ c.toNat) :
    IsPlain (List.replicate count c) :=
  fun _ inside => .inr (List.eq_of_mem_replicate inside ▸ plain)

theorem isPlain_of_isDigit {text : List Char} (digit : ∀ c ∈ text, c.isDigit = true) :
    IsPlain text := by
  intro c inside
  have bounds := digit c inside
  simp only [Char.isDigit, Bool.and_eq_true, decide_eq_true_eq] at bounds
  have low : 48 ≤ c.toNat := bounds.1
  exact .inr (by omega)

namespace Quoted

theorem isPlain_write {style : Style} (sound : style.Sound) (text : List Char) :
    IsPlain (write style text) := by
  intro c inside
  rcases mem_write text c inside with visible | plain
  · exact .inr visible.1
  · exact .inr (sound c plain)

end Quoted

end Text

namespace Number

open Text

theorem isPlain_of_isNumeralText {text : List Char} (numeral : IsNumeralText text) :
    IsPlain text := by
  intro c inside
  rcases numeral c inside with digit | rfl | rfl | rfl | rfl
  · exact isPlain_of_isDigit (List.forall_mem_singleton.mpr digit) c List.mem_cons_self
  all_goals exact .inr (by decide)

theorem isPlain_intText (n : Int) : IsPlain (intText n) :=
  isPlain_of_isNumeralText (isNumeralText_intText n)

theorem isPlain_finiteText (layout : Layout) (negative : Bool) (magnitude : Magnitude) :
    IsPlain (finiteText layout negative magnitude) :=
  isPlain_of_isNumeralText (isNumeralText_finiteText layout negative magnitude)

end Number

namespace Json

open Text

theorem isPlain_newLine (level : Nat) : IsPlain (newLine level) :=
  isPlain_cons.mpr ⟨.inl rfl, isPlain_replicate (by decide)⟩

theorem isPlain_quoted (s : String) : IsPlain (quoted s) :=
  Quoted.isPlain_write Quoted.Style.sound_document s.toList

theorem isPlain_floatText (x : Number.Binary64) : IsPlain (floatText x) := by
  have null : IsPlain ['n', 'u', 'l', 'l'] := by simp [isPlain_cons, isPlain_nil]
  match x with
  | .finite negative magnitude => exact Number.isPlain_finiteText _ _ _
  | .infinite _ | .nan => exact null

mutual

theorem isPlain_writeValue : ∀ (value : Value Empty) (level : Nat),
    IsPlain (writeValue level value)
  | .null, _ | .boolean true, _ | .boolean false, _ | .list [], _ | .object [], _ => by
    simp [writeValue, isPlain_cons, isPlain_nil]
  | .integer n, _ => Number.isPlain_intText n
  | .float x, _ => isPlain_floatText x
  | .text s, _ => isPlain_quoted s
  | .list (item :: items), level => by
    simp [writeValue, isPlain_append, isPlain_cons, isPlain_nil, isPlain_newLine,
      isPlain_writeValue item, isPlain_writeItems items]
  | .object ((key, value) :: members), level => by
    simp [writeValue, isPlain_append, isPlain_cons, isPlain_nil, isPlain_newLine, isPlain_quoted,
      isPlain_writeValue value, isPlain_writeMembers members]

theorem isPlain_writeItems : ∀ (items : List (Value Empty)) (level : Nat),
    IsPlain (writeItems level items)
  | [], _ => isPlain_nil
  | item :: items, level => by
    simp [writeItems, isPlain_append, isPlain_cons, isPlain_newLine, isPlain_writeValue item,
      isPlain_writeItems items]

theorem isPlain_writeMembers : ∀ (members : List (String × Value Empty)) (level : Nat),
    IsPlain (writeMembers level members)
  | [], _ => isPlain_nil
  | (key, value) :: members, level => by
    simp [writeMembers, isPlain_append, isPlain_cons, isPlain_newLine, isPlain_quoted,
      isPlain_writeValue value, isPlain_writeMembers members]

end

end Json

end SchemaDesk
