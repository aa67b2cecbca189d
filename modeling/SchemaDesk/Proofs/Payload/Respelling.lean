import SchemaDesk.Proofs.Payload.Description

/-!
# Keys replaced in payloads

Some parts of entities have two keys. A payload with some of its keys replaced,
at any depth, by the other keys of their parts has the same parts under the keys
that it then has, unless an object in it has both keys of a part. What a payload
is read as is related to what it is read as after the replacement by the paths of
issues alone.
-/

namespace SchemaDesk

open Reading

/-! ## Replacing keys -/

namespace PartKey

/-- The parts that have two keys. -/
def doubled : List PartKey :=
  [isRequired, isList, defaultValue, fieldName, referencedField, onDelete, onUpdate, fromModel,
    toModel]

/-- The other key of the part that the name names. A name that names no such part stays. -/
def otherKey (name : String) : String :=
  match doubled.find? fun key => decide (key.Names name) with
  | some key => if name = key.saved then key.plain else key.saved
  | none => name

end PartKey

/-- A set of places in a payload. The place of a key is the path that ends in it. -/
abbrev Places := List Segment → Bool

namespace Places

/-- The places below a step, seen from there. -/
def below (places : Places) (step : Segment) : Places := fun path => places (step :: path)

/-- What a key becomes when the keys at the places are replaced. -/
def key (places : Places) (name : String) : String :=
  if places [.key name] then PartKey.otherKey name else name

/-- What a step becomes when the keys at the places are replaced. -/
def step (places : Places) : Segment → Segment
  | .key name => .key (places.key name)
  | .index position => .index position

/-- What a path becomes when the keys at the places are replaced. -/
def path (places : Places) : List Segment → List Segment
  | [] => []
  | step :: rest => places.step step :: (places.below step).path rest

end Places

namespace Payload

mutual

/-- The payload with the keys at the places replaced by the other keys of their parts. -/
def respelled (places : Places) : Payload → Payload
  | .list items => .list (respelledItems places 0 items)
  | .object members => .object (respelledMembers places members)
  | payload => payload

/-- The items of a list, from the given position on, with keys replaced. -/
def respelledItems (places : Places) (position : Nat) : List Payload → List Payload
  | [] => []
  | item :: items =>
    respelled (places.below (.index position)) item :: respelledItems places (position + 1) items

/-- The members of an object with their keys and the keys in them replaced. -/
def respelledMembers (places : Places) : Members → Members
  | [] => []
  | (name, payload) :: members =>
    (places.key name, respelled (places.below (.key name)) payload) ::
      respelledMembers places members

end

mutual

/-- No object in the payload has both keys of a part. -/
def isUnmixed : Payload → Bool
  | .list items => areUnmixed items
  | .object members =>
    (PartKey.doubled.all fun key =>
      !(members.any (·.1 == key.saved) && members.any (·.1 == key.plain))) && holdUnmixed members
  | _ => true

/-- No object in the items has both keys of a part. -/
def areUnmixed : List Payload → Bool
  | [] => true
  | item :: items => isUnmixed item && areUnmixed items

/-- No object in the members has both keys of a part. -/
def holdUnmixed : Members → Bool
  | [] => true
  | (_, payload) :: members => isUnmixed payload && holdUnmixed members

end

/-- The path leads to a part of the payload. -/
inductive HasPath : Payload → List Segment → Prop
  | whole (payload : Payload) : HasPath payload []
  | member {members : Members} {name : String} {payload : Payload} {path : List Segment} :
      Json.member? members name = some payload → HasPath payload path →
      HasPath (.object members) (.key name :: path)
  | item {items : List Payload} {position : Int} {i : Nat} {payload : Payload}
      {path : List Segment} : position = i → items[i]? = some payload → HasPath payload path →
      HasPath (.list items) (.index position :: path)

end Payload

/-- All of the places are places of the payload. -/
def Places.In (places : Places) (payload : Payload) : Prop :=
  ∀ path, places path = true → payload.HasPath path

/-- The issue with the keys at the places replaced in its path. -/
def Issue.respelled (places : Places) (issue : Issue) : Issue :=
  ⟨places.path issue.path, issue.cause⟩

namespace Reading

variable {α β : Type}

/-- The reading with its issues changed. -/
def mapIssues (change : Issue → Issue) (reading : Reading α) : Reading α := fun used =>
  match reading used with
  | (.ok value, used) => (.ok value, used)
  | (.error issues, used) => (.error (issues.map change), used)

/-- The reading with the keys at the places replaced in the paths of its issues. -/
def respelled (places : Places) (reading : Reading α) : Reading α :=
  reading.mapIssues (Issue.respelled places)

theorem under_eq_mapIssues (step : Segment) (reading : Reading α) :
    reading.under step = reading.mapIssues (Issue.under step) := rfl

theorem mapIssues_mapIssues (change again : Issue → Issue) (reading : Reading α) :
    (reading.mapIssues change).mapIssues again = reading.mapIssues (again ∘ change) := by
  funext used
  rcases read : reading used with ⟨_ | _, _⟩ <;> simp [mapIssues, read]

/-- Issues are changed in both of two readings. -/
theorem mapIssues_seq (change : Issue → Issue) (first : Reading (α → β)) (second : Reading α) :
    (first <*> second).mapIssues change =
      first.mapIssues change <*> second.mapIssues change := by
  funext used
  show (both first second).mapIssues change used = both _ _ used
  rcases read : first used with ⟨_ | _, middle⟩ <;>
    rcases readToo : second middle with ⟨_ | _, _⟩ <;>
    simp [both, mapIssues, combine, read, readToo]

theorem mapIssues_map (change : Issue → Issue) (f : α → β) (reading : Reading α) :
    (f <$> reading).mapIssues change = f <$> reading.mapIssues change :=
  mapIssues_seq change (accept f) reading

/-- Issues are seen under the step that a step becomes. -/
theorem respelled_under (places : Places) (step : Segment) (reading : Reading α) :
    (reading.under step).respelled places =
      (reading.respelled (places.below step)).under (places.step step) := by
  simp only [respelled, under_eq_mapIssues, mapIssues_mapIssues]
  rfl

end Reading

/-! ## Keys after a replacement -/

namespace PartKey

/-- What a replacement does to the keys of other parts does not matter to this one. -/
def IsClosed (key : PartKey) : Prop :=
  ∀ other ∈ doubled, key.Names other.saved ↔ key.Names other.plain

instance : DecidablePred IsClosed :=
  fun key => inferInstanceAs
    (Decidable (∀ other ∈ doubled, key.Names other.saved ↔ key.Names other.plain))

/-- The part has one key, or it is known to have two. -/
def IsKnown (key : PartKey) : Prop :=
  (key.saved = key.plain ∨ key ∈ doubled) ∧ key.IsClosed

instance : DecidablePred IsKnown :=
  fun key => inferInstanceAs (Decidable ((key.saved = key.plain ∨ key ∈ doubled) ∧ key.IsClosed))

theorem names_otherKey_iff {key : PartKey} (closed : key.IsClosed) (name : String) :
    key.Names (otherKey name) ↔ key.Names name := by
  unfold otherKey
  split
  · next other found =>
    have listed := List.mem_of_find?_eq_some found
    have named : other.Names name := by simpa using List.find?_some found
    split
    · next same => rw [same, closed other listed]
    · next differs => rw [named.resolve_left differs, closed other listed]
  · exact Iff.rfl

end PartKey

namespace Places

variable (places : Places)

theorem names_key_iff {key : PartKey} (closed : key.IsClosed) (name : String) :
    key.Names (places.key name) ↔ key.Names name := by
  unfold Places.key
  split
  · exact PartKey.names_otherKey_iff closed name
  · exact Iff.rfl

/-- A replacement confuses no key of a part with one of another. -/
theorem names_of_key_eq {key : PartKey} (closed : key.IsClosed) {name other : String}
    (named : key.Names name) (same : places.key other = places.key name) : key.Names other := by
  rw [← places.names_key_iff closed, same]
  exact (places.names_key_iff closed name).mpr named

/-- A path that leads through no replaced key stays as it is. -/
theorem path_eq_self {places : Places} {path : List Segment}
    (apart : ∀ front, front <+: path → places front = false) : places.path path = path := by
  induction path generalizing places with
  | nil => rfl
  | cons step rest ih =>
    have stays : places.step step = step := by
      cases step with
      | key name =>
        have chosen := apart [.key name] ⟨rest, rfl⟩
        simp [Places.step, Places.key, chosen]
      | index position => rfl
    have later : (places.below step).path rest = rest :=
      ih fun front inside => apart (step :: front) (List.cons_prefix_cons.mpr ⟨rfl, inside⟩)
    rw [Places.path, stays, later]

end Places

namespace Json

variable {β : Type}

theorem member?_eq_none_iff {members : List (String × β)} {key : String} :
    member? members key = none ↔ key ∉ members.map (·.1) := by
  refine ⟨fun missing => ?_, member?_eq_none_of_not_mem members key⟩
  induction members with
  | nil => exact List.not_mem_nil
  | cons head rest ih =>
    rw [member?_cons, Option.or_eq_none_iff, ite_eq_right_iff] at missing
    rw [List.map_cons, List.mem_cons, not_or]
    exact ⟨fun same => Option.some_ne_none _ (missing.2 same.symm), ih missing.1⟩

theorem mem_of_member?_eq_some {members : List (String × β)} {key : String} {value : β}
    (found : member? members key = some value) : key ∈ members.map (·.1) :=
  List.mem_map_of_mem (mem_of_member? found)

end Json

section Parts

variable {members : Members} {key : PartKey} {used : String} {payload : Payload}

theorem part?_eq_some (found : part? members key = some (used, payload)) :
    key.Names used ∧ Json.member? members used = some payload := by
  unfold part? at found
  split at found
  · next saved =>
    cases found
    exact ⟨.inl rfl, saved⟩
  · obtain ⟨_, plain, same⟩ := Option.map_eq_some_iff.mp found
    cases same
    exact ⟨.inr rfl, plain⟩

theorem part?_eq_none_iff :
    part? members key = none ↔ ∀ name ∈ members.map (·.1), ¬ key.Names name := by
  have absent : part? members key = none ↔
      Json.member? members key.saved = none ∧ Json.member? members key.plain = none := by
    unfold part?
    split
    · next saved => simp [saved]
    · next saved => simp [saved]
  rw [absent, Json.member?_eq_none_iff, Json.member?_eq_none_iff]
  constructor
  · rintro ⟨saved, plain⟩ name listed (rfl | rfl)
    · exact saved listed
    · exact plain listed
  · intro none
    exact ⟨fun listed => none _ listed (.inl rfl), fun listed => none _ listed (.inr rfl)⟩

/-- In an object without both keys of a part, the part has one name. -/
theorem eq_of_isUnmixed (known : key.IsKnown)
    (unmixed : Payload.isUnmixed (.object members) = true) {first second : String}
    (listed : first ∈ members.map (·.1)) (listedToo : second ∈ members.map (·.1))
    (named : key.Names first) (namedToo : key.Names second) : first = second := by
  rcases known.1 with single | double
  · rw [PartKey.Names, ← single, or_self] at named namedToo
    rw [named, namedToo]
  · rw [Payload.isUnmixed, Bool.and_eq_true, List.all_eq_true] at unmixed
    have apart := unmixed.1 key double
    have has {name : String} (listed : name ∈ members.map (·.1)) :
        members.any (·.1 == name) = true := by
      obtain ⟨member, inside, rfl⟩ := List.mem_map.mp listed
      exact List.any_eq_true.mpr ⟨member, inside, beq_self_eq_true _⟩
    rcases named with rfl | rfl <;> rcases namedToo with rfl | rfl
    · rfl
    · simp [has listed, has listedToo] at apart
    · simp [has listed, has listedToo] at apart
    · rfl

theorem Payload.isUnmixed_of_member? (unmixed : isUnmixed (.object members) = true)
    (found : Json.member? members used = some payload) : payload.isUnmixed = true := by
  rw [isUnmixed, Bool.and_eq_true] at unmixed
  obtain ⟨-, each⟩ := unmixed
  induction members with
  | nil => cases found
  | cons head rest ih =>
    rw [holdUnmixed, Bool.and_eq_true] at each
    rw [Json.member?_cons, Option.or_eq_some_iff] at found
    rcases found with later | ⟨-, here⟩
    · exact ih later each.2
    · split at here
      · cases here
        exact each.1
      · cases here

theorem Payload.isUnmixed_of_mem {items : List Payload} (unmixed : isUnmixed (.list items) = true)
    (listed : payload ∈ items) : payload.isUnmixed = true := by
  rw [isUnmixed] at unmixed
  induction items with
  | nil => cases listed
  | cons item items ih =>
    rw [areUnmixed, Bool.and_eq_true] at unmixed
    rcases List.mem_cons.mp listed with rfl | later
    · exact unmixed.1
    · exact ih unmixed.2 later

/-! ## Parts after a replacement -/

variable (places : Places)

theorem Payload.respelledMembers_eq_map (members : Members) :
    respelledMembers places members = members.map fun member =>
      (places.key member.1, respelled (places.below (.key member.1)) member.2) := by
  induction members with
  | nil => rfl
  | cons member members ih => rw [respelledMembers, ih, List.map_cons]

/-- A member is found under the key that its key becomes, if no other key becomes that. -/
theorem member?_respelledMembers {name : String}
    (apart : ∀ other ∈ members.map (·.1), places.key other = places.key name → other = name) :
    Json.member? (Payload.respelledMembers places members) (places.key name) =
      (Json.member? members name).map (Payload.respelled (places.below (.key name))) := by
  rw [Payload.respelledMembers_eq_map]
  induction members with
  | nil => rfl
  | cons head rest ih =>
    rw [List.map_cons, List.forall_mem_cons] at apart
    rw [List.map_cons, Json.member?_cons, Json.member?_cons, ih apart.2]
    by_cases same : head.1 = name
    · subst same
      cases Json.member? rest head.1 <;> simp
    · have differs : places.key head.1 ≠ places.key name := fun merged => same (apart.1 merged)
      cases Json.member? rest name <;> simp [same, differs]

/-- A part that is there is found under the key that its key becomes. -/
theorem part?_respelledMembers (known : key.IsKnown)
    (unmixed : Payload.isUnmixed (.object members) = true) :
    part? (Payload.respelledMembers places members) key =
      (part? members key).map fun found =>
        (places.key found.1, found.2.respelled (places.below (.key found.1))) := by
  have keys : (Payload.respelledMembers places members).map (·.1) =
      (members.map (·.1)).map places.key := by
    rw [Payload.respelledMembers_eq_map, List.map_map, List.map_map]
    rfl
  cases found : part? members key with
  | none =>
    rw [part?_eq_none_iff] at found
    rw [Option.map_none, part?_eq_none_iff, keys, List.forall_mem_map]
    exact fun name listed named =>
      found name listed ((places.names_key_iff known.2 name).mp named)
  | some part =>
    obtain ⟨used, payload⟩ := part
    obtain ⟨named, here⟩ := part?_eq_some found
    have only {other : String} (listed : other ∈ members.map (·.1)) (namedToo : key.Names other) :
        other = used :=
      eq_of_isUnmixed known unmixed listed (Json.mem_of_member?_eq_some here) namedToo named
    have moved := member?_respelledMembers places fun other listed
        (same : places.key other = places.key used) =>
      only listed (places.names_of_key_eq known.2 named same)
    rw [here, Option.map_some] at moved
    refine part?_of_names moved ((places.names_key_iff known.2 used).mpr named) ?_
    rw [keys, List.forall_mem_map]
    intro other listed namedToo
    rw [only listed ((places.names_key_iff known.2 other).mp namedToo)]

end Parts

/-! ## Readings after a replacement -/

/-- No object in the payload has both keys of a part, and the places are places of the payload. -/
structure Places.Suit (places : Places) (payload : Payload) : Prop where
  unmixed : payload.isUnmixed = true
  inside : places.In payload

/-- What is read after a replacement is what was read before, with the keys replaced in the paths of
issues. -/
def IgnoresSpelling {α : Type} (read : Payload → Reading α) : Prop :=
  ∀ places payload, places.Suit payload →
    read (payload.respelled places) = (read payload).respelled places

namespace Places.Suit

variable {places : Places} {members : Members} {name : String} {items : List Payload} {i : Nat}
  {payload : Payload}

theorem member (suit : places.Suit (.object members))
    (found : Json.member? members name = some payload) :
    (places.below (.key name)).Suit payload where
  unmixed := Payload.isUnmixed_of_member? suit.unmixed found
  inside := by
    intro path chosen
    cases suit.inside _ chosen with
    | member foundToo further =>
      cases foundToo.symm.trans found
      exact further

theorem item (suit : places.Suit (.list items)) (found : items[i]? = some payload) :
    (places.below (.index i)).Suit payload where
  unmixed := Payload.isUnmixed_of_mem suit.unmixed (List.mem_of_getElem? found)
  inside := by
    intro path chosen
    cases suit.inside _ chosen with
    | item same foundToo further =>
      obtain rfl := Int.ofNat_inj.mp same
      cases foundToo.symm.trans found
      exact further

/-- A key that is not in an object is not replaced. -/
theorem key_eq (suit : places.Suit (.object members)) (absent : name ∉ members.map (·.1)) :
    places.key name = name := by
  refine if_neg fun chosen => absent ?_
  cases suit.inside _ chosen with
  | member found _ => exact Json.mem_of_member?_eq_some found

end Places.Suit

namespace Reading

variable {α β : Type} {places : Places}

theorem respelled_seq (first : Reading (α → β)) (second : Reading α) :
    (first <*> second).respelled places = first.respelled places <*> second.respelled places :=
  mapIssues_seq _ first second

theorem respelled_map (f : α → β) (reading : Reading α) :
    (f <$> reading).respelled places = f <$> reading.respelled places :=
  mapIssues_map _ f reading

end Reading

section Objects

variable {α : Type} {places : Places} {members : Members} {key : PartKey}
  {read : Payload → Reading α}

theorem readPart_respelledMembers (suit : places.Suit (.object members)) (known : key.IsKnown)
    (ignores : IgnoresSpelling read) {absent : Reading α}
    (same : part? members key = none → absent.respelled places = absent) :
    readPart (Payload.respelledMembers places members) key read absent =
      (readPart members key read absent).respelled places := by
  unfold readPart
  rw [part?_respelledMembers places known suit.unmixed]
  cases found : part? members key with
  | none => exact (same found).symm
  | some part =>
    obtain ⟨used, payload⟩ := part
    obtain ⟨-, here⟩ := part?_eq_some found
    show (read (payload.respelled _)).under (.key (places.key used)) = _
    rw [ignores _ payload (suit.member here), respelled_under]
    rfl

/-- A part that is missing is reported under a key that no replacement has touched. -/
theorem readRequired_respelledMembers (suit : places.Suit (.object members)) (known : key.IsKnown)
    (ignores : IgnoresSpelling read) :
    readRequired (Payload.respelledMembers places members) key read =
      (readRequired members key read).respelled places := by
  refine readPart_respelledMembers suit known ignores fun missing => ?_
  have absent : key.saved ∉ members.map (·.1) :=
    fun listed => part?_eq_none_iff.mp missing _ listed (.inl rfl)
  rw [respelled_under, Places.step, suit.key_eq absent]
  rfl

end Objects

end SchemaDesk
