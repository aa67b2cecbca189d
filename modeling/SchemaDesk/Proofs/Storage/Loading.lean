import Mathlib.Data.List.DropRight
import Mathlib.Data.List.TakeWhile
import SchemaDesk.Proofs.Diagnostic.Location
import SchemaDesk.Proofs.Text.Utf8
import SchemaDesk.Proofs.Workspace.Files
import SchemaDesk.Storage.Basic

/-!
# Files that do not load

The error for a file that does not load names the file, whether it is missing, is
blank, holds no JSON or holds JSON that saves no schema. Two errors come from the
system as they are: that of bytes that are no UTF-8 names no file, and a path that
is too long is not taken for a missing file.
-/

namespace SchemaDesk

/-! ## Blank files -/

namespace Text

/-- Only of blanks nothing is left. -/
theorem strip_eq_nil_iff {text : List Char} : strip text = [] ↔ text.all isBlank = true := by
  rw [List.all_eq_true]
  constructor
  · intro nothing
    rw [strip, stripEnd, List.reverse_eq_nil_iff, List.dropWhile_eq_nil_iff] at nothing
    have left : stripStart text = [] := by
      rw [stripStart, ← List.dropWhile_idempotent, List.dropWhile_eq_nil_iff]
      exact fun c inside => nothing c (List.mem_reverse.mpr inside)
    exact List.dropWhile_eq_nil_iff.mp left
  · exact strip_eq_nil_of_all_blank text

/-- A text whose line ends are unified is as blank as it was. -/
theorem all_isBlank_unifyNewlines (text : List Char) :
    (unifyNewlines text).all isBlank = text.all isBlank := by
  have feed : isBlank '\n' = true := by decide
  have carriage : isBlank '\r' = true := by decide
  fun_induction unifyNewlines text with
  | case1 => rfl
  | case2 rest ih => simp only [List.all_cons, ih, feed, carriage, Bool.true_and]
  | case3 rest _ ih => simp only [List.all_cons, ih, feed, carriage]
  | case4 c rest _ _ ih => rw [List.all_cons, ih, List.all_cons]

end Text

/-! ## What messages name -/

namespace Text.Utf8

/-- The characters of which descriptions of malformed bytes consist. -/
def isWording (c : Char) : Bool :=
  c.isAlphanum || [' ', '\'', '-', ':'].contains c

/-- Only such characters stand in the text. -/
def IsWordingText (text : List Char) : Prop :=
  ∀ c ∈ text, isWording c = true

instance : DecidablePred IsWordingText :=
  fun text => List.decidableBAll _ text

theorem isWordingText_append {first second : List Char} :
    IsWordingText (first ++ second) ↔ IsWordingText first ∧ IsWordingText second :=
  List.forall_mem_append

theorem isWordingText_hex (width n : Nat) : IsWordingText (hex width n) :=
  forall_mem_hex (by decide) width n

theorem isWordingText_toString (n : Nat) : IsWordingText (toString n).toList := by
  intro c inside
  simp [isWording, Char.isAlphanum, isDigit_of_mem_toString c inside]

theorem Fault.isWordingText_message (fault : Fault) : IsWordingText fault.message.toList := by
  cases fault <;> decide

theorem Malformed.isWordingText_message (malformed : Malformed) :
    IsWordingText malformed.message.toList := by
  have codec : IsWordingText "'utf-8' codec can't decode ".toList := by decide
  have byte : IsWordingText "byte 0x".toList := by decide
  have inPosition : IsWordingText " in position ".toList := by decide
  have bytes : IsWordingText "bytes in position ".toList := by decide
  have hyphen : IsWordingText "-".toList := by decide
  have colon : IsWordingText ": ".toList := by decide
  unfold message
  split
  · simp only [String.toList_append, String.toList_ofList, isWordingText_append]
    exact ⟨⟨⟨codec, ⟨⟨byte, isWordingText_hex _ _⟩, inPosition⟩, isWordingText_toString _⟩, colon⟩,
      malformed.fault.isWordingText_message⟩
  · simp only [String.toList_append, isWordingText_append]
    exact ⟨⟨⟨codec, ⟨⟨bytes, isWordingText_toString _⟩, hyphen⟩, isWordingText_toString _⟩, colon⟩,
      malformed.fault.isWordingText_message⟩

end Text.Utf8

namespace LoadError

/-- The text of the path stands in the message of the error. -/
def Names (error : LoadError) (path : FilePath) : Prop :=
  path.text.toList <:+: error.message.toList

variable (path : FilePath)

theorem names_notFound : (notFound path).Names path := by
  unfold Names message
  simp only [String.toList_append]
  exact (List.suffix_append _ _).isInfix

theorem names_empty : (empty path).Names path := by
  unfold Names message
  simp only [String.toList_append]
  exact (List.suffix_append _ _).isInfix

theorem names_malformed (issues : List Issue) : (malformed path issues).Names path := by
  unfold Names message
  simp only [String.toList_append, List.append_assoc]
  exact List.infix_append' _ _ _

/-- What is wrong with bytes is said without the path. -/
theorem not_names_undecodable {path : FilePath} (malformed : Text.Utf8.Malformed) {c : Char}
    (inside : c ∈ path.text.toList) (other : Text.Utf8.isWording c = false) :
    ¬ (undecodable malformed).Names path := by
  intro named
  have wording := malformed.isWordingText_message c (named.subset inside)
  rw [other] at wording
  cases wording

end LoadError

/-! ## What is loaded -/

section Bytes

variable (ids : FreshIds) (path : FilePath)

theorem decodeSchema_of_blank {text : List Char} (blank : text.all Text.isBlank = true) :
    decodeSchema ids path (Text.Utf8.encode text) = .error (.empty path) := by
  have nothing : Text.strip (Text.unifyNewlines text) = [] :=
    Text.strip_eq_nil_iff.mpr ((Text.all_isBlank_unifyNewlines text).trans blank)
  simp [decodeSchema, Text.Utf8.decode_encode, nothing]

theorem decodeSchema_of_not_blank {text : List Char}
    (solid : ¬ text.all Text.isBlank = true) :
    (∃ schema, decodeSchema ids path (Text.Utf8.encode text) = .ok schema) ∨
      ∃ issues,
        decodeSchema ids path (Text.Utf8.encode text) = .error (.malformed path issues) := by
  have something : Text.strip (Text.unifyNewlines text) ≠ [] := fun nothing =>
    solid ((Text.all_isBlank_unifyNewlines text).symm.trans (Text.strip_eq_nil_iff.mp nothing))
  simp only [decodeSchema, Text.Utf8.decode_encode, List.isEmpty_iff, if_neg something]
  cases parseSchema ids (Text.strip (Text.unifyNewlines text)) with
  | ok schema => exact .inl ⟨schema, rfl⟩
  | error issues => exact .inr ⟨issues, rfl⟩

theorem decodeSchema_of_no_text {bytes : List UInt8}
    (noText : ∀ text, Text.Utf8.encode text ≠ bytes) :
    ∃ malformed, decodeSchema ids path bytes = .error (.undecodable malformed) := by
  unfold decodeSchema
  cases decoded : Text.Utf8.decode bytes with
  | ok text => exact absurd (Text.Utf8.decode_eq_ok_iff.mp decoded) (noText text)
  | error malformed => exact ⟨malformed, rfl⟩

end Bytes

/-- The fault says that nothing is there, or that the path is too long. -/
def PathFault.IsOfLooking (fault : PathFault) : Prop :=
  fault.meansNothing = true ∨ fault = .tooLong

theorem FilePath.isOfLooking_of_fault? {path : FilePath} {fault : PathFault}
    (unsound : path.fault? = some fault) : fault.IsOfLooking := by
  unfold fault? at unsound
  split at unsound
  · cases unsound
    exact .inl rfl
  split at unsound
  · cases unsound
    exact .inr rfl
  · cases unsound

namespace Workspace

variable {workspace : Workspace}

theorem isOfLooking_of_enter {place : Place} {name : String} {fault : PathFault}
    (failed : workspace.enter place name = .error fault) : fault.IsOfLooking := by
  unfold enter at failed
  split at failed
  · cases failed
    exact .inl rfl
  · cases failed
    exact .inl rfl
  · split at failed
    · cases failed
    split at failed
    · cases failed
      exact .inr rfl
    · cases failed

theorem isOfLooking_of_follow {place : Place} {names : List String} {fault : PathFault}
    (failed : workspace.follow place names = .error fault) : fault.IsOfLooking := by
  induction names generalizing place with
  | nil => cases failed
  | cons name names ih =>
    rw [follow] at failed
    split at failed
    · next entered =>
      cases failed
      exact isOfLooking_of_enter entered
    · exact ih failed

theorem isOfLooking_of_resolve {path : FilePath} {fault : PathFault}
    (failed : workspace.resolve path = .error fault) : fault.IsOfLooking := by
  unfold resolve at failed
  split at failed
  · next unsound =>
    cases failed
    exact FilePath.isOfLooking_of_fault? unsound
  · exact isOfLooking_of_follow failed

theorem isOfLooking_of_look {path : FilePath} {fault : PathFault}
    (failed : workspace.look path = .error fault) : fault.IsOfLooking := by
  unfold look at failed
  split at failed
  · next resolved =>
    cases failed
    exact isOfLooking_of_resolve resolved
  · split at failed
    · cases failed
    · cases failed
      exact .inl rfl

theorem load_of_look_error {path : FilePath} {fault : PathFault} (ids : FreshIds)
    (failed : workspace.look path = .error fault) :
    workspace.load ids path =
      .error (if fault.meansNothing then .notFound path else .unreadable ⟨fault, path⟩) := by
  simp [load, fileBytes, failed]

end Workspace

/-- A file that holds a text is loaded, or the error names the file: it is empty if the text is
blank, and else something is found in the text. Where no file is found, the error names the path,
unless the path is too long: that error comes from the system. Bytes that are no text have an error
that names no path in which there is, say, a point or a slash. -/
theorem namesFile_of_load (workspace : Workspace) (ids : FreshIds) (path : FilePath) :
    (∀ text, workspace.fileBytes path = .ok (Text.Utf8.encode text) →
        if text.all Text.isBlank then
          workspace.load ids path = .error (.empty path) ∧ (LoadError.empty path).Names path
        else
          (∃ schema, workspace.load ids path = .ok schema) ∨
            ∃ issues, workspace.load ids path = .error (.malformed path issues) ∧
              (LoadError.malformed path issues).Names path) ∧
      (∀ bytes, workspace.fileBytes path = .ok bytes → (∀ text, Text.Utf8.encode text ≠ bytes) →
        ∃ malformed, workspace.load ids path = .error (.undecodable malformed) ∧
          ∀ c ∈ path.text.toList, Text.Utf8.isWording c = false →
            ¬ (LoadError.undecodable malformed).Names path) ∧
      (∀ fault, workspace.look path = .error fault →
        if fault = .tooLong then
          workspace.load ids path = .error (.unreadable ⟨.tooLong, path⟩)
        else
          workspace.load ids path = .error (.notFound path) ∧
            (LoadError.notFound path).Names path) := by
  have loaded {bytes : List UInt8} (holds : workspace.fileBytes path = .ok bytes) :
      workspace.load ids path = decodeSchema ids path bytes := by
    rw [Workspace.load, holds]
  refine ⟨fun text holds => ?_, fun bytes holds noText => ?_, fun fault failed => ?_⟩
  · rw [loaded holds]
    split
    · next blank =>
      exact ⟨decodeSchema_of_blank ids path blank, LoadError.names_empty path⟩
    · next solid =>
      refine (decodeSchema_of_not_blank ids path solid).imp_right ?_
      exact fun ⟨issues, failed⟩ => ⟨issues, failed, LoadError.names_malformed path issues⟩
  · obtain ⟨malformed, failed⟩ := decodeSchema_of_no_text ids path noText
    refine ⟨malformed, (loaded holds).trans failed, fun c inside other => ?_⟩
    exact LoadError.not_names_undecodable malformed inside other
  · have failure := Workspace.load_of_look_error ids failed
    split
    · next long =>
      rw [long] at failure
      exact failure
    · next short =>
      rw [if_pos ((Workspace.isOfLooking_of_look failed).resolve_right short)] at failure
      exact ⟨failure, LoadError.names_notFound path⟩

/-- A workspace in which one file is blank and another holds a byte that opens no character. -/
def spoiledWorkspace : Workspace :=
  ⟨[(["blank.json"], .file [32, 10]), (["state.json"], .file [255])], [], []⟩

/-- The path of a name in the current directory. -/
def pathHere (name : String) : FilePath := ⟨.current, [name]⟩

/-- In the root directory a name is too long even where the path is not. -/
theorem Workspace.look_of_long {workspace : Workspace} (rooted : workspace.directory = [])
    {name : String} (plain : '\x00' ∉ name.toList) (long : FilePath.maxNameSize < name.utf8ByteSize)
    (bounded : name.utf8ByteSize < FilePath.sizeLimit) :
    workspace.look (pathHere name) = .error .tooLong := by
  have text : (pathHere name).text = name := by
    simp [pathHere, FilePath.text, Anchor.text]
  have sound : (pathHere name).fault? = none := by
    rw [FilePath.fault?_eq_none_iff, text]
    exact ⟨plain, bounded⟩
  have other : name ≠ FilePath.above := by
    rintro rfl
    exact absurd long (by decide)
  have entered : workspace.enter [] name = .error .tooLong := by
    simp [enter, node?, other, long]
  rw [look, resolve, sound]
  simp [pathHere, startOf, follow, rooted, entered]

/-- A name of so many letters. -/
def nameOfLength (n : Nat) : String := String.ofList (List.replicate n 'a')

theorem utf8ByteSize_nameOfLength (n : Nat) : (nameOfLength n).utf8ByteSize = n := by
  unfold nameOfLength
  induction n with
  | zero => rfl
  | succ n ih =>
    rw [List.replicate_succ, String.ofList_cons, String.utf8ByteSize_append, ih,
      show (String.singleton 'a').utf8ByteSize = 1 from rfl, Nat.add_comm]

theorem look_nameOfLength {n : Nat} (long : FilePath.maxNameSize < n)
    (bounded : n < FilePath.sizeLimit) :
    spoiledWorkspace.look (pathHere (nameOfLength n)) = .error .tooLong := by
  have plain : '\x00' ∉ (nameOfLength n).toList := by
    rw [nameOfLength, String.toList_ofList]
    exact fun inside => absurd (List.eq_of_mem_replicate inside) (by decide)
  rw [← utf8ByteSize_nameOfLength n] at long bounded
  exact Workspace.look_of_long rfl plain long bounded

/-- No text has the byte that opens no character. -/
theorem encode_ne_spoiled (text : List Char) : Text.Utf8.encode text ≠ [255] := by
  intro same
  have decoded := Text.Utf8.decode_eq_ok_iff.mpr same
  rw [show Text.Utf8.decode [255] = .error ⟨255, 0, 1, .invalidStart⟩ by decide] at decoded
  cases decoded

theorem namesFile_of_load_spoiled :
    spoiledWorkspace.load (fun _ => "new") (pathHere "blank.json") =
        .error (.empty (pathHere "blank.json")) ∧
      (∃ malformed, spoiledWorkspace.load (fun _ => "new") (pathHere "state.json") =
        .error (.undecodable malformed)) ∧
      spoiledWorkspace.load (fun _ => "new") (pathHere "missing.json") =
        .error (.notFound (pathHere "missing.json")) ∧
      spoiledWorkspace.load (fun _ => "new") (pathHere (nameOfLength 256)) =
        .error (.unreadable ⟨.tooLong, pathHere (nameOfLength 256)⟩) := by
  have results (name : String) :=
    namesFile_of_load spoiledWorkspace (fun _ => "new") (pathHere name)
  refine ⟨?_, ?_, ?_, ?_⟩
  · have blank := (results "blank.json").1 [' ', '\n'] (by decide)
    rw [if_pos (by decide)] at blank
    exact blank.1
  · obtain ⟨malformed, failed, -⟩ :=
      (results "state.json").2.1 [255] (by decide) encode_ne_spoiled
    exact ⟨malformed, failed⟩
  · exact ((results "missing.json").2.2 .missing (by decide)).1
  · exact (results (nameOfLength 256)).2.2 .tooLong (look_nameOfLength (by decide) (by decide))

/-- The error for a file with a byte that opens no character does not name the file. -/
theorem not_names_spoiled :
    spoiledWorkspace.load (fun _ => "new") (pathHere "state.json") =
        .error (.undecodable ⟨255, 0, 1, .invalidStart⟩) ∧
      ¬ (LoadError.undecodable ⟨255, 0, 1, .invalidStart⟩).Names (pathHere "state.json") := by
  refine ⟨by decide, ?_⟩
  exact LoadError.not_names_undecodable _ (show '.' ∈ _ by decide) (by decide)

end SchemaDesk
