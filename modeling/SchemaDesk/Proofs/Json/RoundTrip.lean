import SchemaDesk.Proofs.Json.Notation
import SchemaDesk.Proofs.Text.Quoted

/-!
# Documents are read back

Reading a written document gives the value that was written, where a number
that is not finite has become `null`, provided that the text of every whole
number keeps to the limit of the reader; otherwise the document is not read.
Arrays and objects may not nest too deep.
-/

namespace SchemaDesk.Json

mutual

/-- What is left of a value when it is written and read. -/
@[simp]
def Value.stored {Leaf : Type} : Value Empty → Value Leaf
  | .null => .null
  | .boolean value => .boolean value
  | .integer n => .integer n
  | .float x => if x.isFinite then .float x else .null
  | .text s => .text s
  | .list items => .list (storedItems items)
  | .object members => .object (storedMembers members)

@[simp]
def storedItems {Leaf : Type} : List (Value Empty) → List (Value Leaf)
  | [] => []
  | item :: items => item.stored :: storedItems items

@[simp]
def storedMembers {Leaf : Type} : List (String × Value Empty) → List (String × Value Leaf)
  | [] => []
  | (key, value) :: members => (key, value.stored) :: storedMembers members

end

mutual

/-- The texts of all whole numbers of a value keep to the limit of the reader. -/
def Value.integersFit : Value Empty → Bool
  | .integer n => (Number.intText n).length ≤ numberLimit
  | .list items => itemsFit items
  | .object members => membersFit members
  | _ => true

def itemsFit : List (Value Empty) → Bool
  | [] => true
  | item :: items => item.integersFit && itemsFit items

def membersFit : List (String × Value Empty) → Bool
  | [] => true
  | (_, value) :: members => value.integersFit && membersFit members

end

/-- Arrays and objects nest no deeper than given. -/
inductive Value.Nests : Nat → Value Empty → Prop where
  | null {depth : Nat} : Nests depth .null
  | boolean {depth : Nat} (value : Bool) : Nests depth (.boolean value)
  | integer {depth : Nat} (n : Int) : Nests depth (.integer n)
  | float {depth : Nat} (x : Number.Binary64) : Nests depth (.float x)
  | text {depth : Nat} (s : String) : Nests depth (.text s)
  | list {depth : Nat} {items : List (Value Empty)} (each : ∀ item ∈ items, Nests depth item) :
    Nests (depth + 1) (.list items)
  | object {depth : Nat} {members : List (String × Value Empty)}
    (each : ∀ member ∈ members, Nests depth member.2) : Nests (depth + 1) (.object members)

/-- What follows a value in a document: nothing, a comma or a line end. -/
def EndsValue (text : List Char) : Prop :=
  ∀ c ∈ text.head?, c = ',' ∨ c = '\n'

theorem EndsValue.endsNumeral {text : List Char} (ends : EndsValue text) : EndsNumeral text := by
  intro c first
  rcases ends c first with rfl | rfl <;> decide

/-- The text starts with a character that opens a value but no string, array or object. -/
def StartsScalar (text : List Char) : Prop :=
  ∃ c rest, text = c :: rest ∧ isSpace c = false ∧ c ∉ ['"', '[', ']', '\x7b']

theorem startsScalar_of_isDigit {c : Char} (digit : c.isDigit = true) (rest : List Char) :
    StartsScalar (c :: rest) := by
  refine ⟨c, rest, rfl, ?_, ?_⟩
  · cases space : isSpace c with
    | false => rfl
    | true =>
      simp only [isSpace, Bool.or_eq_true, decide_eq_true_eq] at space
      rcases space with ((rfl | rfl) | rfl) | rfl <;> cases digit
  · simp only [List.mem_cons, List.not_mem_nil, or_false]
    rintro (rfl | rfl | rfl | rfl) <;> cases digit

theorem skipSpace_cons {c : Char} (solid : isSpace c = false) (rest : List Char) :
    skipSpace (c :: rest) = c :: rest := by
  simp [skipSpace, solid]

theorem skipSpace_newLine (level : Nat) (text : List Char) :
    skipSpace (newLine level ++ text) = skipSpace text := by
  refine List.dropWhile_append_of_pos fun c inside => ?_
  rcases List.mem_cons.mp inside with rfl | inside
  · rfl
  · rw [List.eq_of_mem_replicate inside]
    rfl

theorem readValue_scalar (Leaf : Type) {text : List Char} (start : StartsScalar text)
    (fuel depth : Nat) : @readValue Leaf (fuel + 1) depth text = readScalar text := by
  obtain ⟨c, rest, rfl, solid, plain⟩ := start
  simp only [List.mem_cons, List.not_mem_nil, or_false, not_or] at plain
  obtain ⟨quote, list, -, object⟩ := plain
  rw [readValue, skipSpace_cons solid]
  simp [quote, list, object]

theorem startsScalar_intText (n : Int) : StartsScalar (Number.intText n) := by
  unfold Number.intText
  split
  · exact ⟨'-', _, rfl, rfl, by decide⟩
  · cases text : Number.natText n.natAbs with
    | nil => exact absurd text (Number.natText_ne_nil _)
    | cons c rest =>
      have digit := Number.isDigit_of_mem_natText c (text ▸ List.mem_cons_self)
      exact startsScalar_of_isDigit digit rest

theorem startsScalar_floatText (x : Number.Binary64) : StartsScalar (floatText x) := by
  cases x with
  | infinite negative => exact ⟨'n', _, rfl, rfl, by decide⟩
  | nan => exact ⟨'n', _, rfl, rfl, by decide⟩
  | finite negative magnitude =>
    cases negative with
    | true => exact ⟨'-', _, rfl, rfl, by decide⟩
    | false =>
      -- The text of a number is read as one, so it starts with a digit.
      have nothing : EndsNumeral [] := nofun
      have read := Number.readUnsigned_shortest Empty false .saved magnitude nothing
      obtain ⟨c, rest, text, digit⟩ := exists_digit_of_readUnsigned read
      rw [List.append_nil] at text
      rw [floatText, Number.finiteText, text]
      exact startsScalar_of_isDigit digit rest

theorem StartsScalar.append {text : List Char} (start : StartsScalar text) (rest : List Char) :
    StartsScalar (text ++ rest) := by
  obtain ⟨c, more, rfl, solid, plain⟩ := start
  exact ⟨c, more ++ rest, rfl, solid, plain⟩

/-- A written value starts with a character that is no blank and closes nothing. -/
theorem writeValue_start (level : Nat) (value : Value Empty) :
    ∃ c text, writeValue level value = c :: text ∧ isSpace c = false ∧ c ≠ ']' := by
  have scalar {text : List Char} (start : StartsScalar text) :
      ∃ c rest, text = c :: rest ∧ isSpace c = false ∧ c ≠ ']' := by
    obtain ⟨c, rest, same, solid, plain⟩ := start
    simp only [List.mem_cons, not_or] at plain
    exact ⟨c, rest, same, solid, plain.2.2.1⟩
  match value with
  | .null => exact ⟨'n', _, rfl, rfl, by decide⟩
  | .boolean true => exact ⟨'t', _, rfl, rfl, by decide⟩
  | .boolean false => exact ⟨'f', _, rfl, rfl, by decide⟩
  | .integer n => exact scalar (startsScalar_intText n)
  | .float x => exact scalar (startsScalar_floatText x)
  | .text s => exact ⟨'"', _, rfl, rfl, by decide⟩
  | .list [] => exact ⟨'[', _, rfl, rfl, by decide⟩
  | .list (item :: items) => exact ⟨'[', _, rfl, rfl, by decide⟩
  | .object [] => exact ⟨'\x7b', _, rfl, rfl, by decide⟩
  | .object ((key, member) :: members) => exact ⟨'\x7b', _, rfl, rfl, by decide⟩

/-- Enough fuel given, reading the written value gives what is left of it, whatever follows, unless
a whole number exceeds the limit. -/
def ReadsBack (Leaf : Type) (depth : Nat) (value : Value Empty) : Prop :=
  ∀ (level fuel : Nat) {rest : List Char}, (writeValue level value).length ≤ fuel →
    EndsValue rest →
    readValue fuel depth (writeValue level value ++ rest) =
      if value.integersFit then some ((value.stored : Value Leaf), rest) else none

variable {Leaf : Type} {depth : Nat}

theorem readsBack_of_readScalar {value : Value Empty}
    (start : ∀ level, StartsScalar (writeValue level value))
    (read : ∀ {level : Nat} {rest : List Char}, EndsValue rest →
      readScalar (writeValue level value ++ rest) =
        if value.integersFit then some ((value.stored : Value Leaf), rest) else none) :
    ReadsBack Leaf depth value := by
  intro level fuel rest enough ends
  obtain ⟨c, text, same, -, -⟩ := start level
  cases fuel with
  | zero => simp [same] at enough
  | succ fuel => rw [readValue_scalar Leaf ((start level).append rest), read ends]

theorem readsBack_text (s : String) : ReadsBack Leaf depth (.text s) := by
  intro level fuel rest enough ends
  cases fuel with
  | zero => simp [writeValue, quoted, Text.Quoted.write_eq] at enough
  | succ fuel =>
    have read := Text.Quoted.readRest_write Text.Quoted.Style.sound_document s.toList rest
    rw [writeValue, quoted, Text.Quoted.write_eq, List.append_assoc, List.cons_append, readValue,
      skipSpace_cons rfl]
    simp [read, Value.stored, Value.integersFit]

theorem readItems_newLine (fuel level : Nat) (text : List Char) :
    @readItems Leaf fuel depth (newLine level ++ text) = readItems fuel depth text := by
  cases fuel with
  | zero => rfl
  | succ fuel =>
    have read : @readValue Leaf fuel depth (newLine level ++ text) = readValue fuel depth text := by
      cases fuel with
      | zero => rfl
      | succ fuel => rw [readValue, readValue, skipSpace_newLine]
    rw [readItems, readItems, read]

theorem endsValue_newLine (level : Nat) (text : List Char) : EndsValue (newLine level ++ text) := by
  rintro c ⟨⟩
  exact .inr rfl

/-- The items of an array are read back one by one. -/
theorem readItems_write {level fuel : Nat} (below : Nat) {item : Value Empty}
    {items : List (Value Empty)} (rest : List Char)
    (each : ∀ value ∈ item :: items, ReadsBack Leaf depth value)
    (enough : (writeValue level item ++ writeItems level items).length < fuel) :
    @readItems Leaf fuel depth
        (writeValue level item ++ (writeItems level items ++ (newLine below ++ ']' :: rest))) =
      if itemsFit (item :: items) then some (storedItems (item :: items), rest) else none := by
  -- Every item takes one unit of fuel, and at least its comma from the text that bounds the fuel.
  induction items generalizing item fuel with
  | nil =>
    cases fuel with
    | zero => cases enough
    | succ fuel =>
      rw [List.length_append] at enough
      have read := each item List.mem_cons_self level fuel (by omega)
        (endsValue_newLine below (']' :: rest))
      rw [writeItems, List.nil_append, readItems, read]
      cases fits : item.integersFit <;>
        simp [fits, itemsFit, skipSpace_newLine, skipSpace_cons, isSpace, storedItems]
  | cons next items ih =>
    cases fuel with
    | zero => cases enough
    | succ fuel =>
      rw [writeItems] at enough ⊢
      simp only [List.length_append, List.length_cons] at enough
      have ends : EndsValue (',' :: (newLine level ++ (writeValue level next ++
          (writeItems level items ++ (newLine below ++ ']' :: rest))))) := by
        rintro c ⟨⟩
        exact .inl rfl
      have read := each item List.mem_cons_self level fuel (by omega) ends
      have remaining : (writeValue level next ++ writeItems level items).length < fuel := by
        rw [List.length_append]
        omega
      have later := ih (fun value inside => each value (List.mem_cons_of_mem _ inside)) remaining
      simp only [List.append_assoc, List.cons_append]
      rw [readItems, read, itemsFit]
      cases fits : item.integersFit with
      | false => rfl
      | true =>
        simp only [if_true, Bool.true_and, skipSpace_cons (show isSpace ',' = false from rfl),
          readItems_newLine, later]
        split <;> rfl

theorem read_quoted (s : String) (rest : List Char) :
    Text.Quoted.read (quoted s ++ rest) = some (s.toList, rest) := by
  have read := Text.Quoted.readRest_write Text.Quoted.Style.sound_document s.toList rest
  rw [quoted, Text.Quoted.write_eq, List.append_assoc, List.cons_append, Text.Quoted.read, if_pos rfl]
  exact read

theorem skipSpace_quoted (s : String) (rest : List Char) :
    skipSpace (quoted s ++ rest) = quoted s ++ rest :=
  skipSpace_cons rfl _

theorem readMembers_newLine (fuel level : Nat) (text : List Char) :
    @readMembers Leaf fuel depth (newLine level ++ text) = readMembers fuel depth text := by
  cases fuel with
  | zero => rfl
  | succ fuel => rw [readMembers, readMembers, skipSpace_newLine]

theorem readValue_space (fuel : Nat) (text : List Char) :
    @readValue Leaf fuel depth (' ' :: text) = readValue fuel depth text := by
  cases fuel with
  | zero => rfl
  | succ fuel => rw [readValue, readValue]; rfl

/-- The members of an object are read back one by one. -/
theorem readMembers_write {level fuel : Nat} (below : Nat) {key : String} {value : Value Empty}
    {members : List (String × Value Empty)} (rest : List Char)
    (each : ∀ member ∈ (key, value) :: members, ReadsBack Leaf depth member.2)
    (enough : (writeValue level value ++ writeMembers level members).length < fuel) :
    @readMembers Leaf fuel depth
        (quoted key ++ ':' :: ' ' :: (writeValue level value ++
          (writeMembers level members ++ (newLine below ++ '\x7d' :: rest)))) =
      if membersFit ((key, value) :: members) then
        some (storedMembers ((key, value) :: members), rest)
      else none := by
  -- As with items, the fuel shrinks by one and the text by at least a comma.
  induction members generalizing key value fuel with
  | nil =>
    cases fuel with
    | zero => cases enough
    | succ fuel =>
      rw [List.length_append] at enough
      have enoughHere : (writeValue level value).length ≤ fuel := by omega
      have read := each (key, value) List.mem_cons_self level fuel enoughHere
        (endsValue_newLine below ('\x7d' :: rest))
      rw [writeMembers, List.nil_append, readMembers, skipSpace_quoted, read_quoted]
      cases fits : value.integersFit <;>
        simp [fits, membersFit, skipSpace_newLine, skipSpace_cons, isSpace, storedMembers,
          readValue_space, read]
  | cons next members ih =>
    obtain ⟨name, second⟩ := next
    cases fuel with
    | zero => cases enough
    | succ fuel =>
      rw [writeMembers] at enough ⊢
      simp only [List.length_append, List.length_cons] at enough
      have ends : EndsValue (',' :: (newLine level ++ (quoted name ++ ':' :: ' ' ::
          (writeValue level second ++ (writeMembers level members ++
            (newLine below ++ '\x7d' :: rest)))))) := by
        rintro c ⟨⟩
        exact .inl rfl
      have enoughHere : (writeValue level value).length ≤ fuel := by omega
      have read := each (key, value) List.mem_cons_self level fuel enoughHere ends
      have remaining : (writeValue level second ++ writeMembers level members).length < fuel := by
        rw [List.length_append]
        omega
      have later := ih (fun member inside => each member (List.mem_cons_of_mem _ inside)) remaining
      simp only [List.append_assoc, List.cons_append, List.nil_append]
      rw [readMembers, skipSpace_quoted, read_quoted, membersFit]
      simp only [skipSpace_cons (show isSpace ':' = false from rfl), readValue_space, read]
      cases fits : value.integersFit with
      | false => rfl
      | true =>
        simp only [if_true, Bool.true_and, skipSpace_cons (show isSpace ',' = false from rfl),
          readMembers_newLine, later, String.ofList_toList]
        split <;> rfl

theorem readScalar_null (rest : List Char) :
    @readScalar Leaf ('n' :: 'u' :: 'l' :: 'l' :: rest) = some (.null, rest) := rfl

theorem readsBack_float (x : Number.Binary64) : ReadsBack Leaf depth (.float x) := by
  refine readsBack_of_readScalar (fun _ => startsScalar_floatText x) fun ends => ?_
  cases x with
  | finite negative magnitude =>
    exact Number.readScalar_finiteText Leaf .saved negative magnitude ends.endsNumeral
  | infinite negative => exact readScalar_null _
  | nan => exact readScalar_null _

/-- An array that does not close at once has items. -/
theorem readValue_bracket {fuel : Nat} {text rest : List Char} {c : Char}
    (start : skipSpace text = c :: rest) (unclosed : c ≠ ']') :
    @readValue Leaf (fuel + 1) (depth + 1) ('[' :: text) =
      (readItems fuel depth (c :: rest)).map fun (items, rest) => (.list items, rest) := by
  rw [readValue, skipSpace_cons rfl]
  simp [start, unclosed]

/-- An object that does not close at once has members. -/
theorem readValue_brace {fuel : Nat} {text rest : List Char} {c : Char}
    (start : skipSpace text = c :: rest) (unclosed : c ≠ '\x7d') :
    @readValue Leaf (fuel + 1) (depth + 1) ('\x7b' :: text) =
      (readMembers fuel depth (c :: rest)).map fun (members, rest) => (.object members, rest) := by
  rw [readValue, skipSpace_cons rfl]
  simp [start, unclosed]

theorem readsBack_list {items : List (Value Empty)}
    (each : ∀ item ∈ items, ReadsBack Leaf depth item) :
    ReadsBack Leaf (depth + 1) (.list items) := by
  intro level fuel rest enough ends
  cases fuel with
  | zero => cases items <;> cases enough
  | succ fuel =>
    cases items with
    | nil =>
      rw [writeValue, List.cons_append, readValue]
      rfl
    | cons item items =>
      rw [writeValue] at enough ⊢
      simp only [List.length_append, List.length_cons, newLine] at enough
      have remaining :
          (writeValue (level + 1) item ++ writeItems (level + 1) items).length < fuel := by
        rw [List.length_append]
        omega
      -- The first item does not look like the end of the array, which the reader tests first.
      have read := readItems_write level rest each remaining
      obtain ⟨c, text, start, solid, other⟩ := writeValue_start (level + 1) item
      simp only [List.append_assoc, List.cons_append, List.nil_append]
      rw [start, List.cons_append] at read ⊢
      rw [readValue_bracket ((skipSpace_newLine _ _).trans (skipSpace_cons solid _)) other, read,
        Value.integersFit]
      split <;> rfl

theorem readsBack_object {members : List (String × Value Empty)}
    (each : ∀ member ∈ members, ReadsBack Leaf depth member.2) :
    ReadsBack Leaf (depth + 1) (.object members) := by
  intro level fuel rest enough ends
  cases fuel with
  | zero => cases members <;> cases enough
  | succ fuel =>
    cases members with
    | nil =>
      rw [writeValue, List.cons_append, readValue]
      rfl
    | cons member members =>
      obtain ⟨key, value⟩ := member
      rw [writeValue] at enough ⊢
      simp only [List.length_append, List.length_cons, newLine] at enough
      have remaining :
          (writeValue (level + 1) value ++ writeMembers (level + 1) members).length < fuel := by
        rw [List.length_append]
        omega
      have read := readMembers_write level rest each remaining
      simp only [List.append_assoc, List.cons_append, List.nil_append]
      rw [readValue_brace ((skipSpace_newLine _ _).trans (skipSpace_quoted key _)) (by decide)]
      refine (congrArg _ read).trans ?_
      rw [Value.integersFit]
      split <;> rfl

/-- A value that nests no deeper than the reader goes is read back. -/
theorem Value.Nests.readsBack {value : Value Empty} (nests : value.Nests depth) :
    ReadsBack Leaf depth value := by
  -- The depth that is left shrinks with the value, so it is the evidence that is taken apart.
  induction nests with
  | null => exact readsBack_of_readScalar (fun _ => ⟨'n', _, rfl, rfl, by decide⟩) fun _ => rfl
  | boolean value =>
    cases value with
    | true => exact readsBack_of_readScalar (fun _ => ⟨'t', _, rfl, rfl, by decide⟩) fun _ => rfl
    | false => exact readsBack_of_readScalar (fun _ => ⟨'f', _, rfl, rfl, by decide⟩) fun _ => rfl
  | integer n =>
    refine readsBack_of_readScalar (fun _ => startsScalar_intText n) fun ends => ?_
    simpa [writeValue, Value.integersFit] using Number.readScalar_intText Leaf n ends.endsNumeral
  | float x => exact readsBack_float x
  | text s => exact readsBack_text s
  | list each ih => exact readsBack_list ih
  | object each ih => exact readsBack_object ih

/-- A document is read back unless it nests too deep or a whole number exceeds the limit. -/
theorem read?_write {value : Value Empty} (nests : value.Nests depthLimit) :
    read? (write value) = if value.integersFit then some (value.stored : Value Leaf) else none := by
  have enough : (writeValue 0 value).length ≤ 2 * (writeValue 0 value).length + 2 := by omega
  have nothing : EndsValue [] := nofun
  have back : ReadsBack Leaf depthLimit value := nests.readsBack
  have read := back 0 _ enough nothing
  rw [List.append_nil] at read
  rw [read?, readWithin?, write, read]
  cases value.integersFit <;> rfl

mutual

/-- What is left of a value is written as the value was. -/
theorem writeValue_stored : ∀ (value : Value Empty) (level : Nat),
    writeValue level value.stored = writeValue level value
  | .null, _ | .boolean _, _ | .integer _, _ | .text _, _ | .list [], _ | .object [], _ => rfl
  | .float (.finite _ _), _ | .float (.infinite _), _ | .float .nan, _ => rfl
  | .list (item :: items), level => by
    rw [Value.stored, storedItems, writeValue, writeValue, writeValue_stored item,
      writeItems_stored items]
  | .object ((key, value) :: members), level => by
    rw [Value.stored, storedMembers, writeValue, writeValue, writeValue_stored value,
      writeMembers_stored members]

theorem writeItems_stored : ∀ (items : List (Value Empty)) (level : Nat),
    writeItems level (storedItems items) = writeItems level items
  | [], _ => rfl
  | item :: items, level => by
    rw [storedItems, writeItems, writeItems, writeValue_stored item, writeItems_stored items]

theorem writeMembers_stored : ∀ (members : List (String × Value Empty)) (level : Nat),
    writeMembers level (storedMembers members) = writeMembers level members
  | [], _ => rfl
  | (key, value) :: members, level => by
    rw [storedMembers, writeMembers, writeMembers, writeValue_stored value,
      writeMembers_stored members]

end

end SchemaDesk.Json
