import Mathlib.Data.String.Basic
import SchemaDesk.Proofs.Payload.Merging

/-!
# What changes set

A change sets one part of an entity, and the last change of a part counts. The
readings of parts use no fresh ids, so each of them gives by itself what it
gives within the whole. An entity is changed exactly if every part is either
named and read, or kept.
-/

namespace SchemaDesk

open Reading

/-! ## Readings without fresh ids -/

/-- The reading uses no fresh ids. -/
def Reading.IsSteady {α : Type} (reading : Reading α) : Prop :=
  ∀ used, reading used = (reading.run, used)

namespace Reading.IsSteady

variable {α β : Type}

theorem accept (value : α) : (accept value).IsSteady := fun _ => rfl

theorem reject (cause : Issue.Cause) : (reject cause : Reading α).IsSteady := fun _ => rfl

theorem rejectAll (issues : List Issue) : (rejectAll issues : Reading α).IsSteady := fun _ => rfl

theorem both {first : Reading (α → β)} {second : Reading α} (steady : first.IsSteady)
    (steadyToo : second.IsSteady) : (both first second).IsSteady := by
  intro used
  rw [run, Reading.both, Reading.both, steady used, steady 0]
  dsimp only
  rw [steadyToo used, steadyToo 0]

theorem seq {first : Reading (α → β)} {second : Reading α} (steady : first.IsSteady)
    (steadyToo : second.IsSteady) : (first <*> second).IsSteady :=
  steady.both steadyToo

theorem map {f : α → β} {reading : Reading α} (steady : reading.IsSteady) :
    (f <$> reading).IsSteady :=
  (accept f).both steady

theorem under {step : Segment} {reading : Reading α} (steady : reading.IsSteady) :
    (reading.under step).IsSteady := by
  intro used
  rw [run, Reading.under, Reading.under, steady used, steady 0]
  cases reading.run <;> rfl

theorem items {read : Payload → Reading α} (steady : ∀ payload, (read payload).IsSteady)
    (position : Nat) (payloads : List Payload) : (items read position payloads).IsSteady := by
  induction payloads generalizing position with
  | nil => exact accept []
  | cons payload payloads ih => exact ((accept _).both (steady payload).under).both (ih _)

theorem readList {source : Source} {read : Payload → Reading α}
    (steady : ∀ payload, (read payload).IsSteady) (payload : Payload) :
    (readList source read payload).IsSteady := by
  unfold SchemaDesk.readList
  split
  · exact items steady 0 _
  · exact reject _

theorem readPart {members : Members} {key : PartKey} {read : Payload → Reading α}
    (steady : ∀ payload, (read payload).IsSteady) {absent : Reading α}
    (steadyToo : absent.IsSteady) : (readPart members key read absent).IsSteady := by
  unfold SchemaDesk.readPart
  split
  · exact (steady _).under
  · exact steadyToo

theorem readRequired {members : Members} {key : PartKey} {read : Payload → Reading α}
    (steady : ∀ payload, (read payload).IsSteady) : (readRequired members key read).IsSteady :=
  readPart steady (reject _).under

end Reading.IsSteady

theorem Reading.run_under_eq_ok_iff {α : Type} {step : Segment} {reading : Reading α} {value : α} :
    (reading.under step).run = .ok value ↔ reading.run = .ok value := by
  unfold under run
  dsimp only
  split
  · next made => simp [made]
  · next made => simp [made]

theorem isSteady_readText (payload : Payload) : (readText payload).IsSteady := by
  unfold readText
  split
  · exact .accept _
  · exact .accept _
  · exact .reject _

theorem isSteady_readText? (payload : Payload) : (readText? payload).IsSteady := by
  unfold readText?
  split
  · exact .accept _
  · exact (isSteady_readText _).map

theorem isSteady_readFlagText (text : String) : (readFlagText text).IsSteady := by
  unfold readFlagText
  split
  · exact .accept _
  · exact .reject _

theorem isSteady_readFlagInteger (n : Int) : (readFlagInteger n).IsSteady := by
  unfold readFlagInteger
  split_ifs
  · exact .accept _
  · exact .accept _
  · exact .reject _
  · exact .reject _

theorem isSteady_readFlag (payload : Payload) : (readFlag payload).IsSteady := by
  unfold readFlag
  split
  · exact .accept _
  · exact isSteady_readFlagInteger _
  · split
    · exact isSteady_readFlagInteger _
    · exact .reject _
  · exact isSteady_readFlagText _
  · exact isSteady_readFlagText _
  · exact .reject _

theorem isSteady_readDefault? (payload : Payload) : (readDefault? payload).IsSteady := by
  unfold readDefault?
  split
  · exact .accept _
  · exact .accept _
  · exact .accept _
  · exact .accept _
  · exact .accept _
  · exact .accept _
  · exact .rejectAll _

theorem isSteady_readCardinality (payload : Payload) : (readCardinality payload).IsSteady := by
  unfold readCardinality
  split
  · exact .accept _
  · split
    · exact .accept _
    · exact .reject _
  · exact .reject _

theorem isSteady_readAction? (payload : Payload) : (readAction? payload).IsSteady := by
  unfold readAction?
  split
  · exact .accept _
  · split
    · exact .accept _
    · exact .reject _
  · exact .reject _

theorem isSteady_readField (source : Source) (payload : Payload) :
    (readField source payload).IsSteady := by
  unfold readField
  split
  · exact .accept _
  · exact ((((((IsSteady.readRequired isSteady_readText).map.seq
      (.readPart isSteady_readText (.accept _))).seq
      (.readPart isSteady_readFlag (.accept _))).seq
      (.readPart isSteady_readFlag (.accept _))).seq
      (.readPart (.readList isSteady_readText) (.accept _))).seq
      (.readPart isSteady_readDefault? (.accept _)))
  · exact .reject _

theorem isSteady_readBlockAttribute (source : Source) (payload : Payload) :
    (readBlockAttribute source payload).IsSteady := by
  unfold readBlockAttribute
  split
  · exact .accept _
  · exact (IsSteady.readRequired isSteady_readText).map.seq
      (.readPart isSteady_readText? (.accept _))
  · exact .reject _

theorem isSteady_readFieldMapping (source : Source) (payload : Payload) :
    (readFieldMapping source payload).IsSteady := by
  unfold readFieldMapping
  split
  · exact .accept _
  · exact (IsSteady.readRequired isSteady_readText).map.seq (.readRequired isSteady_readText)
  · exact .reject _

theorem isSteady_readRelationClause (source : Source) (payload : Payload) :
    (readRelationClause source payload).IsSteady := by
  unfold readRelationClause
  split
  · exact .accept _
  · exact ((IsSteady.readPart isSteady_readAction? (.accept _)).map.seq
      (.readPart isSteady_readAction? (.accept _))).seq
      (.readPart (.readList (isSteady_readFieldMapping source)) (.accept _))
  · exact .reject _

/-! ## Unknown keys -/

/-- The keys under which a model may be changed, and that of its id, which is ignored. -/
def Model.changeKeys : List String := ["id", "name", "fields", "attributes"]

/-- The keys under which a relationship may be changed, and that of its id, which is ignored. -/
def Relationship.changeKeys : List String :=
  ["id", "from_model", "fromModel", "to_model", "toModel", "type", "config"]

namespace Changes

/-- The keys of the changes that are none of the allowed ones. -/
def strayKeys (allowed : List String) (changes : Changes) : List String :=
  (changes.map (·.1)).filter fun name => name ∉ allowed

variable {changes : Changes} {known : List PartKey} {allowed : List String}

/-- The reported keys are those that are not allowed. -/
theorem unknownKeys_perm
    (covered : ∀ name, name ∈ allowed ↔ name = "id" ∨ ∃ key ∈ known, key.Names name) :
    (changes.unknownKeys known).Perm (changes.strayKeys allowed) := by
  refine (List.mergeSort_perm _ _).trans (List.Perm.of_eq ?_)
  rw [strayKeys, withoutId, List.filter_map, List.filter_filter, List.filter_map]
  refine congrArg _ (List.filter_congr fun change _ => ?_)
  have named : (known.any fun key => key.saved == change.1 || key.plain == change.1) = true ↔
      ∃ key ∈ known, key.Names change.1 := by
    simp [PartKey.Names, @eq_comm _ change.1]
  rw [Bool.eq_iff_iff]
  simp only [Function.comp_apply, Bool.and_eq_true, Bool.not_eq_true', ← Bool.not_eq_true, named,
    bne_iff_ne, decide_eq_true_eq, covered, not_or, ne_eq, and_comm]

theorem unknownKeys_eq_nil_iff
    (covered : ∀ name, name ∈ allowed ↔ name = "id" ∨ ∃ key ∈ known, key.Names name) :
    changes.unknownKeys known = [] ↔ changes.strayKeys allowed = [] := by
  rw [← List.length_eq_zero_iff, (unknownKeys_perm covered).length_eq, List.length_eq_zero_iff]

theorem strayKeys_eq_nil_iff :
    changes.strayKeys allowed = [] ↔ ∀ change ∈ changes, change.1 ∈ allowed := by
  simp [strayKeys]

/-- The reported keys are in the order of their characters. -/
theorem pairwise_unknownKeys : (changes.unknownKeys known).Pairwise (· ≤ ·) := by
  have transitive (first second third : String) : decide (first ≤ second) = true →
      decide (second ≤ third) = true → decide (first ≤ third) = true := by
    simpa using le_trans
  have total (first second : String) :
      (decide (first ≤ second) || decide (second ≤ first)) = true := by
    simpa using le_total first second
  exact (List.pairwise_mergeSort transitive total _).imp of_decide_eq_true

end Changes

theorem Model.mem_changeKeys_iff (name : String) :
    name ∈ changeKeys ↔ name = "id" ∨ ∃ key ∈ partKeys, key.Names name := by
  simp [changeKeys, partKeys, PartKey.Names, PartKey.only]

theorem Relationship.mem_changeKeys_iff (name : String) :
    name ∈ changeKeys ↔ name = "id" ∨ ∃ key ∈ partKeys, key.Names name := by
  simp [changeKeys, partKeys, PartKey.Names, PartKey.only, PartKey.fromModel, PartKey.toModel]
  tauto

/-! ## The last change of a part -/

namespace Changes

/-- What the changes make of a part: the last one that names it sets it to what it is read as, and a
part that none names is kept. -/
inductive Sets {α : Type} (changes : Changes) (key : PartKey) (read : Payload → Reading α)
    (old : α) : α → Prop
  | kept (unnamed : ∀ change ∈ changes, ¬ key.Names change.1) : Sets changes key read old old
  | changed {front rest : Changes} {name : String} {payload : Payload} {new : α}
      (split : changes = front ++ (name, payload) :: rest) (named : key.Names name)
      (last : ∀ change ∈ rest, ¬ key.Names change.1)
      (parsed : (read payload.openEntities).run = .ok new) : Sets changes key read old new

section Parts

variable {changes : Changes} {key : PartKey}

theorem part?_append (first second : Changes) (key : PartKey) :
    part? (first ++ second) key = (part? second key).or (part? first key) := by
  induction first with
  | nil => simp [part?]
  | cons change rest ih =>
    rw [List.cons_append, part?_cons, ih, part?_cons, Option.or_assoc]

theorem part?_eq_none_iff :
    changes.part? key = none ↔ ∀ change ∈ changes, ¬ key.Names change.1 := by
  induction changes with
  | nil => simp [part?]
  | cons change rest ih =>
    rw [part?_cons, Option.or_eq_none_iff, ih, List.forall_mem_cons]
    simp [and_comm]

/-- A part is found at the last change that names it. -/
theorem exists_split_of_part? {payload : Payload} (found : changes.part? key = some payload) :
    ∃ front name value rest, changes = front ++ (name, value) :: rest ∧ key.Names name ∧
      (∀ change ∈ rest, ¬ key.Names change.1) ∧ payload = value.openEntities := by
  induction changes with
  | nil => cases found
  | cons change behind ih =>
    rw [part?_cons] at found
    cases later : part? behind key with
    | some value =>
      obtain ⟨front, name, value, rest, rfl, there⟩ := ih (by simpa [later] using found)
      exact ⟨change :: front, name, value, rest, rfl, there⟩
    | none =>
      obtain ⟨name, value⟩ := change
      have here : key.Names name ∧ value.openEntities = payload := by simpa [later] using found
      exact ⟨[], name, value, behind, rfl, here.1, part?_eq_none_iff.mp later, here.2.symm⟩

/-- What a change sets is what is read where the part is found. -/
theorem sets_iff {α : Type} {read : Payload → Reading α} {old new : α} :
    changes.Sets key read old new ↔
      match changes.part? key with
      | some payload => (read payload).run = .ok new
      | none => new = old := by
  constructor
  · rintro (unnamed | ⟨rfl, named, last, parsed⟩)
    · rw [part?_eq_none_iff.mpr unnamed]
    · rw [part?_append, part?_cons, part?_eq_none_iff.mpr last]
      simpa [named] using parsed
  · intro read
    cases found : changes.part? key with
    | none =>
      rw [found] at read
      exact read ▸ .kept (part?_eq_none_iff.mp found)
    | some payload =>
      obtain ⟨front, name, value, rest, split, named, last, rfl⟩ := exists_split_of_part? found
      rw [found] at read
      exact .changed split named last read

theorem isSteady_readPart {α : Type} {read : Payload → Reading α}
    (steady : ∀ payload, (read payload).IsSteady) (old : α) :
    (changes.readPart key read old).IsSteady := by
  unfold readPart
  split
  · exact (steady _).under
  · exact .accept _

/-- A part is read as what the changes set it to. -/
theorem readPart_eq_ok_iff {α : Type} {read : Payload → Reading α}
    (steady : ∀ payload, (read payload).IsSteady) {old new : α} {used : Nat} :
    (changes.readPart key read old used).1 = .ok new ↔ changes.Sets key read old new := by
  rw [isSteady_readPart steady old used, sets_iff, readPart]
  cases changes.part? key with
  | none => simp [run, accept, eq_comm]
  | some payload => exact run_under_eq_ok_iff

end Parts

/-! ## One set of changes after another -/

/-- The second changes after those of the first that set other parts. -/
def overriddenBy (known : List PartKey) (first second : Changes) : Changes :=
  first.filter (fun change => ∀ key ∈ known, key.Names change.1 →
    ∀ other ∈ second, ¬ key.Names other.1) ++ second

section Overriding

variable {known : List PartKey} {first second : Changes} {key : PartKey}

theorem part?_filter {kept : String × Payload → Bool}
    (keeps : ∀ change ∈ first, key.Names change.1 → kept change = true) :
    part? (first.filter kept) key = part? first key := by
  induction first with
  | nil => rfl
  | cons change rest ih =>
    rw [List.forall_mem_cons] at keeps
    rw [part?_cons, ← ih keeps.2, List.filter_cons]
    split
    · rw [part?_cons]
    · next dropped =>
      have unnamed : ¬ key.Names change.1 := fun named => dropped (keeps.1 named)
      simp [unnamed]

theorem part?_overriddenBy (apart : known.Pairwise PartKey.Apart) (listed : key ∈ known) :
    part? (overriddenBy known first second) key = (part? second key).or (part? first key) := by
  rw [overriddenBy, part?_append]
  cases found : part? second key with
  | some payload => rfl
  | none =>
    -- Nothing in the second changes names the part, so all changes of it in the first are kept.
    rw [Option.none_or, Option.none_or]
    refine part?_filter fun change _ named => decide_eq_true fun other listedToo namedToo => ?_
    rw [PartKey.eq_of_names apart listedToo listed namedToo named]
    exact part?_eq_none_iff.mp found

/-- What the first changes set and the second keep or set again, is set by both together. -/
theorem Sets.trans {α : Type} {read : Payload → Reading α} {old between new : α}
    (apart : known.Pairwise PartKey.Apart) (listed : key ∈ known)
    (sets : first.Sets key read old between) (setsToo : second.Sets key read between new) :
    (overriddenBy known first second).Sets key read old new := by
  rw [sets_iff] at sets setsToo ⊢
  rw [part?_overriddenBy apart listed]
  cases found : part? second key with
  | some payload => simpa [found] using setsToo
  | none =>
    have same : new = between := by simpa [found] using setsToo
    exact same ▸ sets

theorem sets_nil_iff {α : Type} {read : Payload → Reading α} {old new : α} :
    Sets [] key read old new ↔ new = old := by
  simp [sets_iff, part?]

theorem forall_mem_overriddenBy {property : String × Payload → Prop}
    (here : ∀ change ∈ first, property change) (there : ∀ change ∈ second, property change) :
    ∀ change ∈ overriddenBy known first second, property change :=
  List.forall_mem_append.mpr
    ⟨fun change inside => here change (List.mem_of_mem_filter inside), there⟩

end Overriding

end Changes

/-! ## Merging -/

/-- The model with the changes merged in: its id is kept, and every part is what the changes set. -/
structure Model.IsMerge (changes : Changes) (old new : Model) : Prop where
  id : new.id = old.id
  name : changes.Sets (.only "name") readText old.name new.name
  fields : changes.Sets (.only "fields") (readList .value (readField .value)) old.fields new.fields
  attributes : changes.Sets (.only "attributes") (readList .value (readBlockAttribute .value))
    old.attributes new.attributes

/-- The relationship with the changes merged in: its id is kept, and every part is what the changes
set. -/
structure Relationship.IsMerge (changes : Changes) (old new : Relationship) : Prop where
  id : new.id = old.id
  source : changes.Sets .fromModel readText old.source new.source
  target : changes.Sets .toModel readText old.target new.target
  cardinality : changes.Sets (.only "type") readCardinality old.cardinality new.cardinality
  clause : changes.Sets (.only "config") (readRelationClause .value) old.clause new.clause

/-- The changes are read as their merge. -/
theorem Model.run_readChanges_eq_ok_iff {old new : Model} {changes : Changes} :
    (old.readChanges changes).run = .ok new ↔ Model.IsMerge changes old new := by
  unfold readChanges run
  simp only [seq_eq_ok_iff, map_eq_ok_iff, Changes.readPart_eq_ok_iff isSteady_readText,
    Changes.readPart_eq_ok_iff (IsSteady.readList (isSteady_readField .value)),
    Changes.readPart_eq_ok_iff (IsSteady.readList (isSteady_readBlockAttribute .value))]
  constructor
  · rintro ⟨_, attributes, ⟨_, fields, ⟨_, name, ⟨_, kept, rfl⟩, setName, rfl⟩, setFields, rfl⟩,
      setAttributes, rfl⟩
    cases kept
    exact ⟨rfl, setName, setFields, setAttributes⟩
  · intro merge
    obtain ⟨id, name, fields, attributes⟩ := new
    obtain rfl := merge.id
    exact ⟨_, _, ⟨_, _, ⟨_, _, ⟨_, rfl, rfl⟩, merge.name, rfl⟩, merge.fields, rfl⟩,
      merge.attributes, rfl⟩

theorem Relationship.run_readChanges_eq_ok_iff {old new : Relationship} {changes : Changes} :
    (old.readChanges changes).run = .ok new ↔ Relationship.IsMerge changes old new := by
  unfold readChanges run
  simp only [seq_eq_ok_iff, map_eq_ok_iff, Changes.readPart_eq_ok_iff isSteady_readText,
    Changes.readPart_eq_ok_iff isSteady_readCardinality,
    Changes.readPart_eq_ok_iff (isSteady_readRelationClause .value)]
  constructor
  · rintro ⟨_, clause, ⟨_, cardinality, ⟨_, target, ⟨_, source, ⟨_, kept, rfl⟩, setSource, rfl⟩,
      setTarget, rfl⟩, setCardinality, rfl⟩, setClause, rfl⟩
    cases kept
    exact ⟨rfl, setSource, setTarget, setCardinality, setClause⟩
  · intro merge
    obtain ⟨id, source, target, cardinality, clause⟩ := new
    obtain rfl := merge.id
    exact ⟨_, _, ⟨_, _, ⟨_, _, ⟨_, _, ⟨_, rfl, rfl⟩, merge.source, rfl⟩, merge.target, rfl⟩,
      merge.cardinality, rfl⟩, merge.clause, rfl⟩

end SchemaDesk
