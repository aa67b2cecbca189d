import SchemaDesk.Text.Utf8
import SchemaDesk.Workspace.Resolution

/-!
# Files and directories

Reading and writing files, and making the directories that they need. An
operation that takes several steps may fail after some of them; what it has
made by then stays, so it answers with a workspace in either case.
-/

namespace SchemaDesk

namespace Workspace

/-- The bytes of a file. -/
def fileBytes (workspace : Workspace) (path : FilePath) : Except FileError (List UInt8) :=
  match workspace.look path with
  | .ok (.file bytes) => .ok bytes
  | .ok .directory => .error ⟨.isDirectory, path⟩
  | .error fault => .error ⟨fault, path⟩

/-- Puts bytes where a path leads, unless a directory stands there. -/
def writeFile (workspace : Workspace) (path : FilePath) (bytes : List UInt8) :
    Except FileError Workspace :=
  match workspace.resolve path with
  | .error fault => .error ⟨fault, path⟩
  | .ok place =>
    if workspace.node? place = some .directory then .error ⟨.isDirectory, path⟩
    else .ok (workspace.put place (.file bytes))

/-- Adds bytes at the end of a file, which is made if it is missing. -/
def appendFile (workspace : Workspace) (path : FilePath) (bytes : List UInt8) :
    Except FileError Workspace :=
  match workspace.fileBytes path with
  | .ok earlier => workspace.writeFile path (earlier ++ bytes)
  | .error _ => workspace.writeFile path bytes

/-- Makes a directory at every place on the way of some names where nothing stands. The names that
were walked already are given for the error, which is about the path up to where the way ends. -/
def makeWay (workspace : Workspace) (anchor : Anchor) (place : Place) (walked : List String) :
    List String → Except FileError Unit × Workspace
  | [] => (.ok (), workspace)
  | name :: names =>
    let walked := walked ++ [name]
    match workspace.enter place name with
    | .error fault => (.error ⟨fault, ⟨anchor, walked⟩⟩, workspace)
    | .ok next =>
      match workspace.node? next with
      | some .directory => workspace.makeWay anchor next walked names
      | some (.file _) => (.error ⟨.occupied, ⟨anchor, walked⟩⟩, workspace)
      | none => (workspace.put next .directory).makeWay anchor next walked names

/-- Makes a directory unless it is there. If something on the way is missing, every directory on the
way is made first. -/
def makeDirectories (workspace : Workspace) (path : FilePath) : Except FileError Unit × Workspace :=
  match workspace.resolve path with
  | .error .missing =>
    workspace.makeWay path.anchor (workspace.startOf path) [] path.names
  | .error fault => (.error ⟨fault, path⟩, workspace)
  | .ok place =>
    match workspace.node? place with
    | some .directory => (.ok (), workspace)
    | some (.file _) => (.error ⟨.occupied, path⟩, workspace)
    | none => (.ok (), workspace.put place .directory)

/-- Writes a text into a file, and makes the directories above it. -/
def saveText (workspace : Workspace) (path : FilePath) (text : String) :
    Except FileError Unit × Workspace :=
  match workspace.makeDirectories path.parent with
  | (.error error, made) => (.error error, made)
  | (.ok _, made) =>
    match made.writeFile path (Text.Utf8.encode text.toList) with
    | .error error => (.error error, made)
    | .ok written => (.ok (), written)

/-- Where nothing is wrong with the way and no directory stands, a path is written. -/
theorem writeFile_eq_ok {workspace : Workspace} {path : FilePath} {place : Place}
    (bytes : List UInt8) (resolved : workspace.resolve path = .ok place)
    (free : workspace.node? place ≠ some .directory) :
    workspace.writeFile path bytes = .ok (workspace.put place (.file bytes)) := by
  simp [writeFile, resolved, free]

end Workspace

end SchemaDesk
