import SchemaDesk.Proofs.Payload.Respelling
import SchemaDesk.Proofs.Storage.Layout

/-!
# Both keys of a part

Which of the two keys of a part a payload uses does not matter to what is read
from it: the same entity, or the same issues in the same order. Only where an
issue lies at or below a key that was replaced, its path shows the key that the
payload has.
-/

namespace SchemaDesk

open Reading

/-! ## Readings of values -/

/-- Every issue lies at the whole payload or at a key that is never replaced. -/
def Reading.IsLocal {α : Type} (reading : Reading α) : Prop :=
  ∀ places, reading.respelled places = reading

namespace Reading.IsLocal

variable {α β : Type}

theorem accept (value : α) : (accept value).IsLocal := fun _ => rfl

theorem reject (cause : Issue.Cause) : (reject cause : Reading α).IsLocal := fun _ => rfl

theorem map {f : α → β} {reading : Reading α} (isLocal : reading.IsLocal) :
    (f <$> reading).IsLocal := by
  intro places
  rw [respelled_map, isLocal places]

end Reading.IsLocal

/-- A reading that does not look into lists and objects ignores what keys there are in them. -/
theorem Reading.IsLocal.ignoresSpelling {α : Type} {read : Payload → Reading α}
    (isLocal : ∀ payload, (read payload).IsLocal)
    (lists : ∀ items others, read (.list items) = read (.list others))
    (objects : ∀ members others, read (.object members) = read (.object others)) :
    IgnoresSpelling read := by
  intro places payload _
  rw [isLocal payload places]
  match payload with
  | .null | .boolean _ | .integer _ | .float _ | .text _ | .leaf _ => rfl
  | .list _ => exact lists _ _
  | .object _ => exact objects _ _

theorem isLocal_readText (payload : Payload) : (readText payload).IsLocal := by
  unfold readText
  split
  · exact .accept _
  · exact .accept _
  · exact .reject _

theorem isLocal_readText? (payload : Payload) : (readText? payload).IsLocal := by
  unfold readText?
  split
  · exact .accept _
  · exact (isLocal_readText _).map

theorem isLocal_readFlagText (text : String) : (readFlagText text).IsLocal := by
  unfold readFlagText
  split
  · exact .accept _
  · exact .reject _

theorem isLocal_readFlagInteger (n : Int) : (readFlagInteger n).IsLocal := by
  unfold readFlagInteger
  split_ifs
  · exact .accept _
  · exact .accept _
  · exact .reject _
  · exact .reject _

theorem isLocal_readFlag (payload : Payload) : (readFlag payload).IsLocal := by
  unfold readFlag
  split
  · exact .accept _
  · exact isLocal_readFlagInteger _
  · split
    · exact isLocal_readFlagInteger _
    · exact .reject _
  · exact isLocal_readFlagText _
  · exact isLocal_readFlagText _
  · exact .reject _

/-- A value that is no default has its issues under names of kinds, which are no keys of parts. -/
theorem isLocal_notDefault : (rejectAll notDefault : Reading (Option DefaultValue)).IsLocal := by
  intro places
  have kept {name : String} (other : PartKey.otherKey name = name) : places.key name = name := by
    rw [Places.key, other, ite_self]
  funext used
  show (Except.error (notDefault.map (Issue.respelled places)), used) = _
  simp [notDefault, Issue.respelled, Places.path, Places.step, rejectAll,
    kept (show PartKey.otherKey "bool" = "bool" by decide),
    kept (show PartKey.otherKey "int" = "int" by decide),
    kept (show PartKey.otherKey "float" = "float" by decide),
    kept (show PartKey.otherKey "str" = "str" by decide)]

theorem isLocal_readDefault? (payload : Payload) : (readDefault? payload).IsLocal := by
  unfold readDefault?
  split
  · exact .accept _
  · exact .accept _
  · exact .accept _
  · exact .accept _
  · exact .accept _
  · exact .accept _
  · exact isLocal_notDefault

theorem isLocal_readCardinality (payload : Payload) : (readCardinality payload).IsLocal := by
  unfold readCardinality
  split
  · exact .accept _
  · split
    · exact .accept _
    · exact .reject _
  · exact .reject _

theorem isLocal_readAction? (payload : Payload) : (readAction? payload).IsLocal := by
  unfold readAction?
  split
  · exact .accept _
  · split
    · exact .accept _
    · exact .reject _
  · exact .reject _

namespace IgnoresSpelling

theorem text : IgnoresSpelling readText :=
  IsLocal.ignoresSpelling isLocal_readText (fun _ _ => rfl) fun _ _ => rfl

theorem text? : IgnoresSpelling readText? :=
  IsLocal.ignoresSpelling isLocal_readText? (fun _ _ => rfl) fun _ _ => rfl

theorem flag : IgnoresSpelling readFlag :=
  IsLocal.ignoresSpelling isLocal_readFlag (fun _ _ => rfl) fun _ _ => rfl

theorem default? : IgnoresSpelling readDefault? :=
  IsLocal.ignoresSpelling isLocal_readDefault? (fun _ _ => rfl) fun _ _ => rfl

theorem cardinality : IgnoresSpelling readCardinality :=
  IsLocal.ignoresSpelling isLocal_readCardinality (fun _ _ => rfl) fun _ _ => rfl

theorem action? : IgnoresSpelling readAction? :=
  IsLocal.ignoresSpelling isLocal_readAction? (fun _ _ => rfl) fun _ _ => rfl

section Lists

variable {α : Type} {read : Payload → Reading α}

/-- The items of a list are read alike one by one; their positions stay. -/
theorem items (ignores : IgnoresSpelling read) (places : Places) {payloads : List Payload}
    (position : Nat) (suit : ∀ (i : Nat) payload, payloads[i]? = some payload →
      (places.below (.index (position + i : Nat))).Suit payload) :
    Reading.items read position (Payload.respelledItems places position payloads) =
      (Reading.items read position payloads).respelled places := by
  induction payloads generalizing position with
  | nil => rfl
  | cons payload payloads ih =>
    have first := suit 0 payload rfl
    rw [Nat.add_zero] at first
    have later := ih (position + 1) fun i other listed => by
      have below := suit (i + 1) other listed
      rwa [← Nat.add_assoc, Nat.add_right_comm] at below
    rw [Payload.respelledItems, Reading.items, Reading.items, later, ignores _ payload first]
    show List.cons <$> _ <*> _ = Reading.respelled places (List.cons <$> _ <*> _)
    rw [respelled_seq, respelled_map, respelled_under]
    rfl

theorem list (source : Source) (ignores : IgnoresSpelling read) :
    IgnoresSpelling (readList source read) := by
  intro places payload suit
  match payload with
  | .null | .boolean _ | .integer _ | .float _ | .text _ | .object _ | .leaf _ => rfl
  | .list payloads =>
    refine ignores.items places 0 fun i item listed => ?_
    rw [Nat.zero_add]
    exact suit.item listed

end Lists

/-! ## Readings of entities -/

theorem field (source : Source) : IgnoresSpelling (readField source) := by
  intro places payload suit
  match payload with
  | .null | .boolean _ | .integer _ | .float _ | .text _ | .list _ => rfl
  | .leaf entity => cases entity <;> rfl
  | .object members =>
    rw [Payload.respelled, readField, readField]
    simp only [respelled_seq, respelled_map]
    rw [readRequired_respelledMembers suit (by decide) text,
      readPart_respelledMembers suit (by decide) text fun _ => rfl,
      readPart_respelledMembers suit (by decide) flag fun _ => rfl,
      readPart_respelledMembers suit (by decide) flag fun _ => rfl,
      readPart_respelledMembers suit (by decide) (list source text) fun _ => rfl,
      readPart_respelledMembers suit (by decide) default? fun _ => rfl]

theorem blockAttribute (source : Source) : IgnoresSpelling (readBlockAttribute source) := by
  intro places payload suit
  match payload with
  | .null | .boolean _ | .integer _ | .float _ | .text _ | .list _ => rfl
  | .leaf entity => cases entity <;> rfl
  | .object members =>
    rw [Payload.respelled, readBlockAttribute, readBlockAttribute]
    simp only [respelled_seq, respelled_map]
    rw [readRequired_respelledMembers suit (by decide) text,
      readPart_respelledMembers suit (by decide) text? fun _ => rfl]

theorem model (ids : FreshIds) (source : Source) : IgnoresSpelling (readModel ids source) := by
  intro places payload suit
  match payload with
  | .null | .boolean _ | .integer _ | .float _ | .text _ | .list _ => rfl
  | .leaf entity => cases entity <;> rfl
  | .object members =>
    rw [Payload.respelled, readModel, readModel]
    simp only [respelled_seq, respelled_map]
    rw [readPart_respelledMembers suit (by decide) text fun _ => rfl,
      readRequired_respelledMembers suit (by decide) text,
      readPart_respelledMembers suit (by decide) (list source (field source)) fun _ => rfl,
      readPart_respelledMembers suit (by decide) (list source (blockAttribute source)) fun _ => rfl]

theorem fieldMapping (source : Source) : IgnoresSpelling (readFieldMapping source) := by
  intro places payload suit
  match payload with
  | .null | .boolean _ | .integer _ | .float _ | .text _ | .list _ => rfl
  | .leaf entity => cases entity <;> rfl
  | .object members =>
    rw [Payload.respelled, readFieldMapping, readFieldMapping]
    simp only [respelled_seq, respelled_map]
    rw [readRequired_respelledMembers suit (by decide) text,
      readRequired_respelledMembers suit (by decide) text]

theorem relationClause (source : Source) : IgnoresSpelling (readRelationClause source) := by
  intro places payload suit
  match payload with
  | .null | .boolean _ | .integer _ | .float _ | .text _ | .list _ => rfl
  | .leaf entity => cases entity <;> rfl
  | .object members =>
    rw [Payload.respelled, readRelationClause, readRelationClause]
    simp only [respelled_seq, respelled_map]
    rw [readPart_respelledMembers suit (by decide) action? fun _ => rfl,
      readPart_respelledMembers suit (by decide) action? fun _ => rfl,
      readPart_respelledMembers suit (by decide) (list source (fieldMapping source)) fun _ => rfl]

theorem relationship (ids : FreshIds) (source : Source) :
    IgnoresSpelling (readRelationship ids source) := by
  intro places payload suit
  match payload with
  | .null | .boolean _ | .integer _ | .float _ | .text _ | .list _ => rfl
  | .leaf entity => cases entity <;> rfl
  | .object members =>
    rw [Payload.respelled, readRelationship, readRelationship]
    simp only [respelled_seq, respelled_map]
    rw [readPart_respelledMembers suit (by decide) text fun _ => rfl,
      readRequired_respelledMembers suit (by decide) text,
      readRequired_respelledMembers suit (by decide) text,
      readPart_respelledMembers suit (by decide) cardinality fun _ => rfl,
      readPart_respelledMembers suit (by decide) (relationClause source) fun _ => rfl]

theorem schema (ids : FreshIds) (source : Source) : IgnoresSpelling (readSchema ids source) := by
  intro places payload suit
  match payload with
  | .null | .boolean _ | .integer _ | .float _ | .text _ | .list _ => rfl
  | .leaf entity => cases entity <;> rfl
  | .object members =>
    rw [Payload.respelled, readSchema, readSchema]
    simp only [respelled_seq, respelled_map]
    rw [readPart_respelledMembers suit (by decide) (list source (model ids source)) fun _ => rfl,
      readPart_respelledMembers suit (by decide) (list source (relationship ids source))
        fun _ => rfl]

theorem entity (ids : FreshIds) (source : Source) (kind : EntityKind) :
    IgnoresSpelling (readEntity ids source kind) := by
  intro places payload suit
  cases kind with
  | field => rw [readEntity, readEntity, field source places payload suit, respelled_map]
  | blockAttribute =>
    rw [readEntity, readEntity, blockAttribute source places payload suit, respelled_map]
  | model => rw [readEntity, readEntity, model ids source places payload suit, respelled_map]
  | fieldMapping =>
    rw [readEntity, readEntity, fieldMapping source places payload suit, respelled_map]
  | relationClause =>
    rw [readEntity, readEntity, relationClause source places payload suit, respelled_map]
  | relationship =>
    rw [readEntity, readEntity, relationship ids source places payload suit, respelled_map]
  | schema => rw [readEntity, readEntity, schema ids source places payload suit, respelled_map]

end IgnoresSpelling

/-- Which key of a part a payload uses does not matter: where keys are replaced by the other keys
of their parts, at any places, the same entity is read with the same fresh ids, or the same issues
are found in the same order. Their paths show the replaced keys as the payload has them, and are
the same where none of these lies on the way. This holds of values and of texts. -/
theorem read_respelled (ids : FreshIds) (kind : EntityKind) {payload : Payload} {places : Places}
    (unmixed : payload.isUnmixed = true) (inside : places.In payload) :
    (∀ source, readEntity ids source kind (payload.respelled places) =
        (readEntity ids source kind payload).respelled places) ∧
      (∀ text other, Json.read? text = some payload →
        Json.read? other = some (payload.respelled places) →
          readJsonText (readEntity ids .json kind) other =
            (readJsonText (readEntity ids .json kind) text).respelled places) ∧
      ∀ issue : Issue, (∀ front, front <+: issue.path → places front = false) →
        issue.respelled places = issue := by
  have same (source : Source) := IgnoresSpelling.entity ids source kind places payload
    ⟨unmixed, inside⟩
  refine ⟨same, fun text other denotes denotesToo => ?_, fun issue apart => ?_⟩
  · rw [readJsonText, readJsonText, denotes, denotesToo]
    exact same .json
  · rw [Issue.respelled, Places.path_eq_self apart]

/-- A relationship with three keys that may be spelled either way, without a target and without the
name of a referenced field, and with no text for its source and no action for a deletion. -/
def muddled (source delete field : String) : SavedValue :=
  .object [(source, .integer 3), ("config", .object [(delete, .text "explode"),
    ("fields", .list [.object [(field, .text "ownerId")]])])]

/-- The relationship is read back as it was written. -/
theorem read?_muddled (source delete field : String) :
    Json.read? (Json.write (muddled source delete field)) =
      some ((muddled source delete field).stored : Payload) := by
  have nests : (muddled source delete field).Nests Json.depthLimit := by
    refine SavedValue.nests_object ⟨.integer 3, SavedValue.nests_object ⟨.text _, ?_⟩⟩
    exact .list (List.forall_mem_singleton.mpr (SavedValue.nests_object (.text _)))
  rw [Json.read?_write nests]
  rfl

/-- The places of the three keys, where they have been spelled in different ways. -/
def muddledPlaces : Places := fun path =>
  [[.key "from_model"], [.key "config", .key "onDelete"],
    [.key "config", .key "fields", .index 0, .key "field_name"]].contains path

/-- The relationship as a payload, before the keys at these places are replaced. -/
def mixedSpelling : Payload := (muddled "from_model" "onDelete" "field_name").stored

/-- The relationship as a payload, after the keys at these places are replaced. -/
def otherSpelling : Payload := (muddled "fromModel" "on_delete" "fieldName").stored

/-- What is found in the relationship, with the keys that it has. -/
def muddledIssues (source delete : String) : List Issue :=
  [⟨[.key source], .notText⟩, ⟨[.key "toModel"], .missing⟩,
    ⟨[.key "config", .key delete], .notAction⟩,
    ⟨[.key "config", .key "fields", .index 0, .key "referencedField"], .missing⟩]

theorem respelled_mixedSpelling : mixedSpelling.respelled muddledPlaces = otherSpelling := rfl

theorem isUnmixed_mixedSpelling : mixedSpelling.isUnmixed = true := by decide

theorem in_mixedSpelling : muddledPlaces.In mixedSpelling := by
  intro path chosen
  simp only [muddledPlaces, List.contains_cons, List.contains_nil, Bool.or_false, Bool.or_eq_true,
    beq_iff_eq] at chosen
  rcases chosen with rfl | rfl | rfl
  · exact .member rfl (.whole _)
  · exact .member rfl (.member rfl (.whole _))
  · exact .member rfl (.member rfl (.item (i := 0) rfl rfl (.member rfl (.whole _))))

/-- With the other keys, as a value and as a text, the same is found in the relationship, at the
keys that it then has. What is missing is missing under the same keys. -/
theorem read_respelled_mixedSpelling :
    mixedSpelling.isUnmixed = true ∧ muddledPlaces.In mixedSpelling ∧
      (readEntity (fun _ => "new") .value .relationship mixedSpelling).run =
        .error (muddledIssues "from_model" "onDelete") ∧
      (readEntity (fun _ => "new") .value .relationship otherSpelling).run =
        .error (muddledIssues "fromModel" "on_delete") ∧
      (readJsonText (readEntity (fun _ => "new") .json .relationship)
          (Json.write (muddled "fromModel" "on_delete" "fieldName"))).run =
        .error (muddledIssues "fromModel" "on_delete") := by
  obtain ⟨values, texts, -⟩ := read_respelled (fun _ => "new") .relationship
    isUnmixed_mixedSpelling in_mixedSpelling
  refine ⟨isUnmixed_mixedSpelling, in_mixedSpelling, by decide, ?_, ?_⟩
  · rw [← respelled_mixedSpelling, values .value]
    decide
  · have denotes : Json.read? (Json.write (muddled "from_model" "onDelete" "field_name")) =
        some mixedSpelling := read?_muddled _ _ _
    have denotesToo : Json.read? (Json.write (muddled "fromModel" "on_delete" "fieldName")) =
        some (mixedSpelling.respelled muddledPlaces) := read?_muddled _ _ _
    rw [texts _ _ denotes denotesToo, readJsonText, denotes]
    decide

/-- The paths of issues are not the same under both keys of a part. -/
theorem paths_differ_mixedSpelling :
    mixedSpelling.isUnmixed = true ∧ muddledPlaces.In mixedSpelling ∧
      mixedSpelling.respelled muddledPlaces = otherSpelling ∧
      (readEntity (fun _ => "new") .value .relationship otherSpelling).run ≠
        (readEntity (fun _ => "new") .value .relationship mixedSpelling).run :=
  ⟨isUnmixed_mixedSpelling, in_mixedSpelling, respelled_mixedSpelling, by decide⟩

end SchemaDesk
