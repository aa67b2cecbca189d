import SchemaDesk.Proofs.Workspace.Resolution
import SchemaDesk.Workspace.Files

/-!
# Files that were saved

What was written is read back from the same path. A file can be opened exactly if
its path leads to a place where no directory stands. Saving succeeds exactly if the
directories above the path can be made and the path then leads to a place where
no directory stands. This is so where no name leads back, the names may be used,
the way to the last one meets no file, and no directory has that name.
-/

namespace SchemaDesk

namespace Workspace

/-- Bytes are read from a path exactly if it leads to a file that holds them. -/
theorem fileBytes_eq_ok_iff {workspace : Workspace} {path : FilePath} {bytes : List UInt8} :
    workspace.fileBytes path = .ok bytes ↔
      ∃ place, workspace.resolve path = .ok place ∧
        workspace.node? place = some (.file bytes) := by
  unfold fileBytes look
  cases workspace.resolve path with
  | error fault => simp
  | ok place =>
    cases found : workspace.node? place with
    | none => simp [found]
    | some node => cases node <;> simp [found]

/-- A path is written exactly if it leads to a place without a directory. -/
theorem writeFile_eq_ok_iff {workspace written : Workspace} {path : FilePath}
    {bytes : List UInt8} :
    workspace.writeFile path bytes = .ok written ↔
      ∃ place, workspace.resolve path = .ok place ∧ workspace.node? place ≠ some .directory ∧
        workspace.put place (.file bytes) = written := by
  unfold writeFile
  cases workspace.resolve path with
  | error fault => simp
  | ok place =>
    by_cases occupied : workspace.node? place = some .directory
    · simp [occupied]
    · simp [occupied]

/-- The file of the path can be opened: the path leads to a place where no directory stands. -/
def CanOpen (workspace : Workspace) (path : FilePath) : Prop :=
  ∃ place, workspace.resolve path = .ok place ∧ workspace.node? place ≠ some .directory

theorem exists_writeFile_iff {workspace : Workspace} {path : FilePath} (bytes : List UInt8) :
    (∃ written, workspace.writeFile path bytes = .ok written) ↔ workspace.CanOpen path := by
  constructor
  · rintro ⟨written, done⟩
    obtain ⟨place, leads, free, -⟩ := writeFile_eq_ok_iff.mp done
    exact ⟨place, leads, free⟩
  · rintro ⟨place, leads, free⟩
    exact ⟨_, writeFile_eq_ok bytes leads free⟩

/-- A file that can be opened can be added to, whether it is there or not. -/
theorem exists_appendFile_iff {workspace : Workspace} {path : FilePath} (bytes : List UInt8) :
    (∃ written, workspace.appendFile path bytes = .ok written) ↔ workspace.CanOpen path := by
  unfold appendFile
  split
  · exact exists_writeFile_iff _
  · exact exists_writeFile_iff _

/-- What was written is read back. -/
theorem fileBytes_writeFile {workspace written : Workspace} {path : FilePath} {bytes : List UInt8}
    (done : workspace.writeFile path bytes = .ok written) : written.fileBytes path = .ok bytes := by
  obtain ⟨place, leads, free, rfl⟩ := writeFile_eq_ok_iff.mp done
  have present := node?_put workspace place (.file bytes) (ne_nil_of_free free)
  exact fileBytes_eq_ok_iff.mpr ⟨place, resolve_put free leads, present⟩

/-- What was saved is read back. -/
theorem fileBytes_saveText {workspace saved : Workspace} {path : FilePath} {text : String}
    (done : workspace.saveText path text = (.ok (), saved)) :
    saved.fileBytes path = .ok (Text.Utf8.encode text.toList) := by
  unfold saveText at done
  split at done
  · cases done
  · next made _ =>
    cases written : made.writeFile path (Text.Utf8.encode text.toList) with
    | error error => simp [written] at done
    | ok other =>
      rw [written] at done
      cases done
      exact fileBytes_writeFile written

/-- Something can be saved under the path: the directories above it can be made, and then the path
leads to a place where no directory stands. -/
def CanHold (workspace : Workspace) (path : FilePath) : Prop :=
  ∃ made place, workspace.makeDirectories path.parent = (.ok (), made) ∧
    made.resolve path = .ok place ∧ made.node? place ≠ some .directory

/-- Saving succeeds exactly under such a path, whatever the text is. -/
theorem saveText_eq_ok_iff {workspace : Workspace} {path : FilePath} (text : String) :
    (workspace.saveText path text).1 = .ok () ↔ workspace.CanHold path := by
  unfold saveText CanHold
  obtain ⟨made | error, after⟩ := workspace.makeDirectories path.parent
  · simp
  · simp only [Prod.mk.injEq, true_and, exists_eq_left', exists_and_left]
    constructor
    · intro saved
      cases written : after.writeFile path (Text.Utf8.encode text.toList) with
      | error error => simp [written] at saved
      | ok next =>
        obtain ⟨place, leads, free, -⟩ := writeFile_eq_ok_iff.mp written
        exact ⟨place, leads, free⟩
    · rintro ⟨place, leads, free⟩
      rw [writeFile_eq_ok (Text.Utf8.encode text.toList) leads free]

/-- The name may be given to a file or a directory. -/
def IsUsable (name : String) : Prop :=
  name ≠ FilePath.above ∧ name.utf8ByteSize ≤ FilePath.maxNameSize

/-- No file stands on the way of some names from a place. -/
def IsOpen (workspace : Workspace) (place : Place) (names : List String) : Prop :=
  ∀ front bytes, front <+: names → workspace.node? (place ++ front) ≠ some (.file bytes)

/-- No name of the path leads back, and its way meets no file and ends where no directory stands. -/
structure HasClearWay (workspace : Workspace) (path : FilePath) : Prop where
  named : path.names ≠ []
  sound : path.fault? = none
  usable : ∀ name ∈ path.names, IsUsable name
  start : workspace.node? (workspace.startOf path) = some .directory
  way : workspace.IsOpen (workspace.startOf path) path.parent.names
  free : workspace.node? (workspace.startOf path ++ path.names) ≠ some .directory

variable {workspace : Workspace} {place : Place} {name : String} {names : List String}

theorem enter_of_isUsable (usable : IsUsable name)
    (here : workspace.node? place = some .directory) :
    workspace.enter place name = .ok (place ++ [name]) := by
  simp [enter, here, usable.1, Nat.not_lt.mpr usable.2]

theorem IsOpen.head (way : workspace.IsOpen place (name :: names)) (bytes : List UInt8) :
    workspace.node? (place ++ [name]) ≠ some (.file bytes) :=
  way [name] bytes (List.cons_prefix_cons.mpr ⟨rfl, List.nil_prefix⟩)

theorem IsOpen.next (way : workspace.IsOpen place (name :: names)) :
    workspace.IsOpen (place ++ [name]) names := by
  intro front bytes inside
  rw [List.append_assoc]
  exact way (name :: front) bytes (List.cons_prefix_cons.mpr ⟨rfl, inside⟩)

/-- Where the way is open, nothing but a missing directory stops it. -/
theorem follow_of_isOpen (usable : ∀ name ∈ names, IsUsable name)
    (here : workspace.node? place = some .directory) (way : workspace.IsOpen place names) :
    workspace.follow place names = .ok (place ++ names) ∨
      workspace.follow place names = .error .missing := by
  induction names generalizing place with
  | nil => simp [follow]
  | cons name names ih =>
    rw [List.forall_mem_cons] at usable
    rw [follow, enter_of_isUsable usable.1 here]
    dsimp only
    cases next : workspace.node? (place ++ [name]) with
    | none =>
      cases names with
      | nil => exact .inl rfl
      | cons second names => exact .inr (by simp [follow, enter, next])
    | some node =>
      cases node with
      | file bytes => exact absurd next (way.head bytes)
      | directory =>
        have later := ih usable.2 next way.next
        rwa [List.append_assoc] at later

/-- The directories on an open way are there, and nothing else has changed: neither on the way
already walked nor below its end. -/
structure HasWay (workspace made : Workspace) (place : Place) (names : List String) : Prop where
  leads : made.follow place names = .ok (place ++ names)
  present : made.node? (place ++ names) = some .directory
  current : made.directory = workspace.directory
  others : ∀ other : Place,
    other.length ≤ place.length ∨ place.length + names.length < other.length →
      made.node? other = workspace.node? other

/-- A directory that is put where nothing stands leaves the way open. -/
theorem IsOpen.put (way : workspace.IsOpen place names) (below : place ≠ []) :
    (workspace.put place .directory).IsOpen place names := by
  intro front bytes inside
  by_cases here : place ++ front = place
  · rw [here, node?_put workspace place .directory below]
    simp
  · rw [node?_put_of_ne workspace .directory here]
    exact way front bytes inside

theorem makeWay_of_isOpen (anchor : Anchor) (walked : List String)
    (usable : ∀ name ∈ names, IsUsable name)
    (here : workspace.node? place = some .directory) (way : workspace.IsOpen place names) :
    ∃ made, workspace.makeWay anchor place walked names = (.ok (), made) ∧
      HasWay workspace made place names := by
  induction names generalizing workspace place walked with
  | nil =>
    refine ⟨workspace, rfl, by simp [follow], by simpa using here, rfl, fun _ _ => rfl⟩
  | cons name names ih =>
    rw [List.forall_mem_cons] at usable
    have below : place ++ [name] ≠ [] := List.append_ne_nil_of_right_ne_nil _ (List.cons_ne_nil _ _)
    -- Whether the first directory was there or is made now, the rest of the way starts from it.
    obtain ⟨ready, readied, present, opened, current, others⟩ :
        ∃ ready : Workspace,
          workspace.makeWay anchor place walked (name :: names) =
            ready.makeWay anchor (place ++ [name]) (walked ++ [name]) names ∧
          ready.node? (place ++ [name]) = some .directory ∧
          ready.IsOpen (place ++ [name]) names ∧ ready.directory = workspace.directory ∧
          ∀ other, other ≠ place ++ [name] → ready.node? other = workspace.node? other := by
      rw [makeWay, enter_of_isUsable usable.1 here]
      dsimp only
      cases next : workspace.node? (place ++ [name]) with
      | none =>
        exact ⟨workspace.put (place ++ [name]) .directory, rfl,
          node?_put workspace _ .directory below, way.next.put below, rfl,
          fun other apart => node?_put_of_ne workspace .directory apart⟩
      | some node =>
        cases node with
        | file bytes => exact absurd next (way.head bytes)
        | directory => exact ⟨workspace, rfl, next, way.next, rfl, fun _ _ => rfl⟩
    obtain ⟨made, done, rest⟩ := ih (walked ++ [name]) usable.2 present opened
    -- The first directory is too long for the way walked and too short to lie below the end.
    have kept (other : Place)
        (outside : other.length ≤ place.length ∨ place.length + names.length + 1 < other.length) :
        made.node? other = workspace.node? other := by
      have apart : other ≠ place ++ [name] := by
        rintro rfl
        simp only [List.length_append, List.length_singleton] at outside
        omega
      rw [← others other apart]
      refine rest.others other ?_
      rw [List.length_append, List.length_singleton]
      omega
    have walk : place ++ name :: names = place ++ [name] ++ names := by simp
    refine ⟨made, readied.trans done, ?_, walk ▸ rest.present, rest.current.trans current, kept⟩
    have still : made.node? place = some .directory := (kept place (by omega)).trans here
    rw [follow, enter_of_isUsable usable.1 still, walk]
    exact rest.leads

/-- The directories of a path with a clear way can be made. -/
theorem makeDirectories_of_hasClearWay {path : FilePath} (clear : workspace.HasClearWay path) :
    ∃ made, workspace.makeDirectories path.parent = (.ok (), made) ∧
      HasWay workspace made (workspace.startOf path) path.parent.names := by
  have usable : ∀ name ∈ path.parent.names, IsUsable name :=
    fun name inside => clear.usable name ((List.dropLast_sublist _).subset inside)
  have start : workspace.startOf path.parent = workspace.startOf path := rfl
  have sound := FilePath.fault?_parent clear.sound
  unfold makeDirectories resolve
  rw [sound, start]
  dsimp only
  rcases follow_of_isOpen usable clear.start clear.way with leads | missing
  · rw [leads]
    dsimp only
    cases there : workspace.node? (workspace.startOf path ++ path.parent.names) with
    | none =>
      -- Only the last directory is missing, and it is put there directly.
      have free : workspace.node? (workspace.startOf path ++ path.parent.names) ≠
          some .directory := by simp [there]
      refine ⟨_, rfl, follow_put free leads,
        node?_put workspace _ .directory (ne_nil_of_free free), rfl, fun other outside => ?_⟩
      refine node?_put_of_ne workspace .directory ?_
      rintro rfl
      rw [List.length_append] at outside
      have nothing : path.parent.names = [] := List.eq_nil_of_length_eq_zero (by omega)
      rw [nothing, List.append_nil, clear.start] at there
      cases there
    | some node =>
      cases node with
      | file bytes => exact absurd there (clear.way _ bytes (List.prefix_refl _))
      | directory => exact ⟨workspace, rfl, leads, there, rfl, fun _ _ => rfl⟩
  · rw [missing]
    exact makeWay_of_isOpen path.anchor [] usable clear.start clear.way

/-- A path with a clear way can hold a file. -/
theorem HasClearWay.canHold {path : FilePath} (clear : workspace.HasClearWay path) :
    workspace.CanHold path := by
  obtain ⟨made, done, way⟩ := makeDirectories_of_hasClearWay clear
  obtain ⟨front, last, split⟩ : ∃ front last, path.names = front ++ [last] :=
    ⟨_, _, (List.dropLast_concat_getLast clear.named).symm⟩
  have parent : path.parent.names = front := by
    rw [FilePath.parent, split, List.dropLast_concat]
  have usable : IsUsable last := clear.usable last (by simp [split])
  have start : made.startOf path = workspace.startOf path := by
    simp only [startOf, way.current]
  have resolved : made.resolve path = .ok (workspace.startOf path ++ path.names) := by
    have leads := way.leads
    have present := way.present
    rw [parent] at leads present
    rw [resolve, clear.sound, start, split, follow_append, leads, Except.bind, follow,
      enter_of_isUsable usable present, List.append_assoc]
    rfl
  have free : made.node? (workspace.startOf path ++ path.names) ≠ some .directory := by
    rw [way.others _ (.inr (by simp [parent, split]))]
    exact clear.free
  exact ⟨made, _, done, resolved, free⟩

end Workspace

end SchemaDesk
