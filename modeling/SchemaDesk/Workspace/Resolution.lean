import SchemaDesk.Text.Printable
import SchemaDesk.Workspace.Basic

/-!
# Resolution of paths

A path is followed name by name. Every name is looked up in a directory, so a
path that leads through a file is a fault, also when it turns back at once, and
so is one that leads through a place where nothing stands. The last name may be
vacant. Names and whole paths have a greatest size.
-/

namespace SchemaDesk

/-- What is wrong with a path. -/
inductive PathFault where
  | missing
  | occupied
  | notDirectory
  | isDirectory
  | tooLong
  | nullCharacter
deriving DecidableEq, Repr

namespace PathFault

/-- The wording of a fault. -/
def wording : PathFault → String
  | missing => "[Errno 2] No such file or directory"
  | occupied => "[Errno 17] File exists"
  | notDirectory => "[Errno 20] Not a directory"
  | isDirectory => "[Errno 21] Is a directory"
  | tooLong => "[Errno 36] File name too long"
  | nullCharacter => "embedded null byte"

/-- The fault only says that nothing stands where the path leads. -/
def meansNothing : PathFault → Bool
  | missing | notDirectory | nullCharacter => true
  | _ => false

end PathFault

/-- Why a file cannot be used. -/
structure FileError where
  fault : PathFault
  path : FilePath
deriving DecidableEq, Repr

/-- The message names the path, unless the path cannot be named. -/
def FileError.message (error : FileError) : String :=
  if error.fault = .nullCharacter then error.fault.wording
  else error.fault.wording ++ ": " ++ String.ofList (Text.Literal.write error.path.text.toList)

namespace FilePath

/-- The greatest number of bytes of a name. -/
def maxNameSize : Nat := 255

/-- The number of bytes that no path reaches. -/
def sizeLimit : Nat := 4096

/-- What is wrong with the text of a path, if anything is. -/
def fault? (path : FilePath) : Option PathFault :=
  if path.text.toList.contains '\x00' then some .nullCharacter
  else if sizeLimit ≤ path.text.utf8ByteSize then some .tooLong
  else none

end FilePath

namespace Workspace

/-- The place to which a name leads from a place. -/
def enter (workspace : Workspace) (place : Place) (name : String) : Except PathFault Place :=
  match workspace.node? place with
  | none => .error .missing
  | some (.file _) => .error .notDirectory
  | some .directory =>
    if name = FilePath.above then .ok place.dropLast
    else if FilePath.maxNameSize < name.utf8ByteSize then .error .tooLong
    else .ok (place ++ [name])

/-- The place to which names lead from a place. -/
def follow (workspace : Workspace) : Place → List String → Except PathFault Place
  | place, [] => .ok place
  | place, name :: names =>
    match workspace.enter place name with
    | .error fault => .error fault
    | .ok next => workspace.follow next names

/-- The place where a path starts. -/
def startOf (workspace : Workspace) (path : FilePath) : Place :=
  if path.anchor = .current then workspace.directory else []

/-- The place to which a path leads; something may stand there or not. -/
def resolve (workspace : Workspace) (path : FilePath) : Except PathFault Place :=
  match path.fault? with
  | some fault => .error fault
  | none => workspace.follow (workspace.startOf path) path.names

/-- What stands where a path leads. -/
def look (workspace : Workspace) (path : FilePath) : Except PathFault Node :=
  match workspace.resolve path with
  | .error fault => .error fault
  | .ok place =>
    match workspace.node? place with
    | some node => .ok node
    | none => .error .missing

/-- Names are followed one after another. -/
theorem follow_append (workspace : Workspace) (place : Place) (first second : List String) :
    workspace.follow place (first ++ second) =
      (workspace.follow place first).bind fun middle => workspace.follow middle second := by
  induction first generalizing place with
  | nil => rfl
  | cons name names ih =>
    simp only [List.cons_append, follow]
    cases workspace.enter place name with
    | error fault => rfl
    | ok next => exact ih next

/-- A name leads on only from a directory. -/
theorem node?_of_enter {workspace : Workspace} {place next : Place} {name : String}
    (entered : workspace.enter place name = .ok next) :
    workspace.node? place = some .directory := by
  unfold enter at entered
  split at entered
  · cases entered
  · cases entered
  · next found => exact found

end Workspace

end SchemaDesk
