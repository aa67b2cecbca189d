import SchemaDesk.Document.Basic
import SchemaDesk.Proofs.Payload.Description
import SchemaDesk.Proofs.Storage.Layout

/-!
# What was loaded can be written

The limit of the reader is no higher than that of the document writer. So every
whole number that a text is read as has few enough digits to be written, and
every schema that was loaded has a document.
-/

namespace SchemaDesk

namespace Number

/-- Digits stand for a number below the power of ten that has one digit more. -/
theorem ofDigitChars_lt {digits : List Char} (digit : ∀ c ∈ digits, c.isDigit = true)
    (start : Nat) : Nat.ofDigitChars 10 digits start < (start + 1) * 10 ^ digits.length := by
  induction digits generalizing start with
  | nil => simp
  | cons c digits ih =>
    rw [List.forall_mem_cons] at digit
    have low : c.toNat - '0'.toNat < 10 := by
      have range := digit.1
      simp only [Char.isDigit, Bool.and_eq_true, decide_eq_true_eq] at range
      have high : c.toNat ≤ 57 := range.2
      have zero : '0'.toNat = 48 := rfl
      omega
    rw [Nat.ofDigitChars_cons, List.length_cons, Nat.pow_succ']
    calc Nat.ofDigitChars 10 digits (10 * start + (c.toNat - '0'.toNat))
        < (10 * start + (c.toNat - '0'.toNat) + 1) * 10 ^ digits.length := ih digit.2 _
      _ ≤ (10 * (start + 1)) * 10 ^ digits.length := Nat.mul_le_mul_right _ (by omega)
      _ = (start + 1) * (10 * 10 ^ digits.length) := by
        rw [Nat.mul_comm 10, Nat.mul_assoc]

end Number

namespace Json

/-- The value is put together without entities, and its whole numbers can be written. -/
inductive Value.IsWritable {Leaf : Type} : Value Leaf → Prop where
  | null : IsWritable .null
  | boolean (value : Bool) : IsWritable (.boolean value)
  | integer {n : Int} (few : Number.isWritable n = true) : IsWritable (.integer n)
  | float (x : Number.Binary64) : IsWritable (.float x)
  | text (s : String) : IsWritable (.text s)
  | list {items : List (Value Leaf)} (each : ∀ item ∈ items, IsWritable item) :
    IsWritable (.list items)
  | object {members : List (String × Value Leaf)}
    (each : ∀ member ∈ members, IsWritable member.2) : IsWritable (.object members)

/-- Digits that keep to the limit of the reader keep to that of the writer. -/
theorem isWritable_signed {negative : Bool} {digits : List Char}
    (digit : ∀ c ∈ digits, c.isDigit = true) (nonempty : digits ≠ [])
    (short : keepsToLimit negative digits = true) :
    Number.isWritable (signed negative digits) = true := by
  have size : (signed negative digits).natAbs = Nat.ofDigitChars 10 digits 0 := by
    rw [signed]
    split <;> simp
  have below := Number.ofDigitChars_lt digit 0
  rw [Nat.zero_add, Nat.one_mul] at below
  have few := (Number.length_natText_le_iff (List.length_pos_iff.mpr nonempty)).mpr below
  have limits : numberLimit = Number.digitLimit := rfl
  rw [keepsToLimit, decide_eq_true_eq, limits] at short
  rw [Number.isWritable, size, decide_eq_true_eq]
  omega

variable {Leaf : Type}

theorem isWritable_of_readUnsigned {negative : Bool} {text rest : List Char} {value : Value Leaf}
    (read : readUnsigned negative text = some (value, rest)) : value.IsWritable := by
  have digit : ∀ c ∈ text.takeWhile Char.isDigit, c.isDigit = true :=
    fun c inside => List.all_eq_true.mp List.all_takeWhile c inside
  unfold readUnsigned at read
  split at read
  · cases read
  · cases read
  · next digits nonempty _ =>
    split at read
    · next short =>
      simp only [Option.bind_eq_bind, Option.bind_eq_some_iff] at read
      obtain ⟨⟨fraction, rest⟩, -, ⟨exponent?, rest⟩, -, read⟩ := read
      dsimp only at read
      split at read
      · cases read
        exact .integer (isWritable_signed digit (by simpa using nonempty) short)
      · cases read
        exact .float _
    · cases read

theorem isWritable_of_readScalar {text rest : List Char} {value : Value Leaf}
    (read : readScalar text = some (value, rest)) : value.IsWritable := by
  unfold readScalar at read
  split at read
  all_goals first
    | exact isWritable_of_readUnsigned read
    | obtain ⟨_, -, same⟩ := Option.map_eq_some_iff.mp read
      cases same
      constructor

/-- Whatever is read can be written. -/
theorem isWritable_of_read (fuel : Nat) :
    (∀ {depth : Nat} {text rest : List Char} {value : Value Leaf},
        readValue fuel depth text = some (value, rest) → value.IsWritable) ∧
      (∀ {depth : Nat} {text rest : List Char} {items : List (Value Leaf)},
        readItems fuel depth text = some (items, rest) → ∀ item ∈ items, item.IsWritable) ∧
      ∀ {depth : Nat} {text rest : List Char} {members : List (String × Value Leaf)},
        readMembers fuel depth text = some (members, rest) →
          ∀ member ∈ members, member.2.IsWritable := by
  -- The three readers call one another with one unit of fuel less.
  induction fuel with
  | zero =>
    refine ⟨fun read => ?_, fun read => ?_, fun read => ?_⟩
    · cases read
    · cases read
    · cases read
  | succ fuel ih =>
    obtain ⟨ofValue, ofItems, ofMembers⟩ := ih
    refine ⟨fun {depth text rest value} read => ?_, fun {depth text rest items} read => ?_,
      fun {depth text rest members} read => ?_⟩
    · rw [readValue] at read
      split at read
      · obtain ⟨_, -, same⟩ := Option.map_eq_some_iff.mp read
        cases same
        exact .text _
      · split at read
        · cases read
        · split at read
          · cases read
            exact .list (List.forall_mem_nil _)
          · obtain ⟨_, inner, same⟩ := Option.map_eq_some_iff.mp read
            cases same
            exact .list (ofItems inner)
      · split at read
        · cases read
        · split at read
          · cases read
            exact .object (List.forall_mem_nil _)
          · obtain ⟨_, inner, same⟩ := Option.map_eq_some_iff.mp read
            cases same
            exact .object (ofMembers inner)
      · exact isWritable_of_readScalar read
    · rw [readItems] at read
      split at read
      · cases read
      · next item rest first =>
        split at read
        · cases read
          exact List.forall_mem_singleton.mpr (ofValue first)
        · obtain ⟨_, later, same⟩ := Option.map_eq_some_iff.mp read
          cases same
          exact List.forall_mem_cons.mpr ⟨ofValue first, ofItems later⟩
        · cases read
    · rw [readMembers] at read
      split at read
      · cases read
      · split at read
        · split at read
          · cases read
          · next value rest first =>
            split at read
            · cases read
              exact List.forall_mem_singleton.mpr (ofValue first)
            · obtain ⟨_, later, same⟩ := Option.map_eq_some_iff.mp read
              cases same
              exact List.forall_mem_cons.mpr ⟨ofValue first, ofMembers later⟩
            · cases read
        · cases read

theorem isWritable_of_read? {text : List Char} {value : Value Leaf}
    (read : read? text = some value) : value.IsWritable := by
  unfold read? readWithin? at read
  split at read
  · next found =>
    split at read
    · cases read
      exact (isWritable_of_read _).1 found
    · cases read
  · cases read

end Json

namespace Reading

variable {α β : Type} {P : α → Prop}

/-- Whatever the reading accepts has the property. -/
def Gives (P : α → Prop) (reading : Reading α) : Prop :=
  ∀ used value, (reading used).1 = .ok value → P value

theorem gives_accept {value : α} (holds : P value) : (accept value).Gives P := by
  rintro used _ ⟨⟩
  exact holds

theorem gives_reject (cause : Issue.Cause) : (reject cause : Reading α).Gives P := nofun

theorem Gives.under {reading : Reading α} (gives : reading.Gives P) (step : Segment) :
    (reading.under step).Gives P := by
  intro used value accepted
  refine gives used value ?_
  unfold Reading.under at accepted
  split at accepted
  · next read =>
    rw [read]
    exact accepted
  · cases accepted

/-- A list has the property item by item. -/
theorem gives_items {read : Payload → Reading α} {payloads : List Payload}
    (each : ∀ payload ∈ payloads, (read payload).Gives P) (position : Nat) :
    (items read position payloads).Gives fun values => ∀ value ∈ values, P value := by
  induction payloads generalizing position with
  | nil => exact gives_accept nofun
  | cons payload payloads ih =>
    rw [List.forall_mem_cons] at each
    intro used values accepted
    obtain ⟨_, rest, first, later, rfl⟩ := combine_eq_ok_iff.mp accepted
    obtain ⟨_, value, made, here, rfl⟩ := combine_eq_ok_iff.mp first
    cases made
    exact List.forall_mem_cons.mpr ⟨each.1.under _ _ _ here, ih each.2 _ _ _ later⟩

theorem gives_readList {source : Source} {read : Payload → Reading α} {payload : Payload}
    (plain : payload.IsWritable) (each : ∀ item : Payload, item.IsWritable → (read item).Gives P) :
    (readList source read payload).Gives fun values => ∀ value ∈ values, P value := by
  cases plain with
  | list items => exact gives_items (fun item inside => each item (items item inside)) 0
  | null | boolean | integer | float | text | object => exact gives_reject _

/-- A part has the property if every member has it when it is read, and so has what stands for an
absent part. -/
theorem gives_readPart {members : Members} {read : Payload → Reading α} {absent : Reading α}
    (plain : ∀ member ∈ members, member.2.IsWritable) (key : PartKey)
    (each : ∀ payload : Payload, payload.IsWritable → (read payload).Gives P)
    (without : absent.Gives P) : (readPart members key read absent).Gives P := by
  unfold readPart part?
  cases saved : Json.member? members key.saved with
  | some payload => exact (each payload (plain _ (Json.mem_of_member? saved))).under _
  | none =>
    cases other : Json.member? members key.plain with
    | some payload => exact (each payload (plain _ (Json.mem_of_member? other))).under _
    | none => exact without

end Reading

open Reading

section Entities

variable {source : Source} {payload : Payload}

theorem gives_readDefault? (plain : payload.IsWritable) :
    (readDefault? payload).Gives fun default? => ∀ value, default? = some value →
      value.isWritable = true := by
  cases plain with
  | null => exact gives_accept nofun
  | boolean | float | text => exact gives_accept (by rintro _ ⟨⟩; rfl)
  | integer few => exact gives_accept (by rintro _ ⟨⟩; exact few)
  | list | object => exact nofun

theorem gives_readField (plain : payload.IsWritable) :
    (readField source payload).Gives Field.IsWritable := by
  cases plain with
  | object members =>
    intro used field accepted
    obtain ⟨_, default?, toTokens, last, rfl⟩ := seq_eq_ok_iff.mp accepted
    obtain ⟨_, _, toList, -, rfl⟩ := seq_eq_ok_iff.mp toTokens
    obtain ⟨_, _, toRequired, -, rfl⟩ := seq_eq_ok_iff.mp toList
    obtain ⟨_, _, toType, -, rfl⟩ := seq_eq_ok_iff.mp toRequired
    obtain ⟨_, _, toName, -, rfl⟩ := seq_eq_ok_iff.mp toType
    obtain ⟨_, -, rfl⟩ := map_eq_ok_iff.mp toName
    have written : (readPart _ .defaultValue readDefault? (accept none)).Gives fun default? =>
        ∀ value, default? = some value → value.isWritable = true :=
      gives_readPart members .defaultValue (fun _ => gives_readDefault?) (gives_accept nofun)
    exact written _ _ last
  | null | boolean | integer | float | text | list => exact gives_reject _

theorem gives_readModel {ids : FreshIds} (plain : payload.IsWritable) :
    (readModel ids source payload).Gives fun model =>
      ∀ field ∈ model.fields, field.IsWritable := by
  cases plain with
  | object members =>
    intro used model accepted
    obtain ⟨_, _, toFields, -, rfl⟩ := seq_eq_ok_iff.mp accepted
    obtain ⟨_, fields, toName, last, rfl⟩ := seq_eq_ok_iff.mp toFields
    obtain ⟨_, _, toId, -, rfl⟩ := seq_eq_ok_iff.mp toName
    obtain ⟨_, -, rfl⟩ := map_eq_ok_iff.mp toId
    have written : (readPart _ (.only "fields") (readList source (readField source))
        (accept [])).Gives fun fields => ∀ field ∈ fields, field.IsWritable :=
      gives_readPart members (.only "fields")
        (fun _ list => gives_readList list fun _ => gives_readField) (gives_accept nofun)
    exact written _ _ last
  | null | boolean | integer | float | text | list => exact gives_reject _

theorem gives_readSchema {ids : FreshIds} (plain : payload.IsWritable) :
    (readSchema ids source payload).Gives Schema.IsWritable := by
  cases plain with
  | object members =>
    intro used schema accepted
    obtain ⟨_, _, toModels, -, rfl⟩ := seq_eq_ok_iff.mp accepted
    obtain ⟨models, last, rfl⟩ := map_eq_ok_iff.mp toModels
    have written : (readPart _ (.only "models") (readList source (readModel ids source))
        (accept [])).Gives fun models => ∀ model ∈ models, ∀ field ∈ model.fields,
          field.IsWritable :=
      gives_readPart members (.only "models")
        (fun _ list => gives_readList list fun _ => gives_readModel) (gives_accept nofun)
    exact written _ _ last
  | null | boolean | integer | float | text | list => exact gives_reject _

end Entities

theorem isWritable_of_parseSchema {ids : FreshIds} {text : List Char} {schema : Schema}
    (parsed : parseSchema ids text = .ok schema) : schema.IsWritable := by
  unfold parseSchema readJsonText at parsed
  split at parsed
  · next payload read =>
    exact gives_readSchema (Json.isWritable_of_read? read) _ _ parsed
  · cases parsed

/-- A schema without oversized defaults is written as its document. -/
theorem Document.write_of_isWritable {schema : Schema} (writable : schema.IsWritable)
    (preamble : Preamble) : write preamble schema = .ok (render preamble schema) := by
  refine writeShowing_eq_ok_iff.mpr ⟨fun value inside => ?_, rfl⟩
  obtain ⟨model, here, inside⟩ := List.mem_flatMap.mp inside
  obtain ⟨field, there, inside⟩ := List.mem_flatMap.mp inside
  exact writable model here field there value (Field.mem_shownDefaults_iff.mp inside).2

/-- A schema that was loaded can be written as a document. -/
theorem isWritable_of_load {workspace : Workspace} {ids : FreshIds} {path : FilePath}
    {schema : Schema} (loaded : workspace.load ids path = .ok schema) : schema.IsWritable := by
  unfold Workspace.load at loaded
  split at loaded
  · unfold decodeSchema at loaded
    split at loaded
    · cases loaded
    · dsimp only at loaded
      split at loaded
      · cases loaded
      · split at loaded
        · next parsed =>
          cases loaded
          exact isWritable_of_parseSchema parsed
        · cases loaded
  · cases loaded

end SchemaDesk
