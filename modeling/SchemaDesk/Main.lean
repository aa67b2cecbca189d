import SchemaDesk.CommandLine.Basic
import Std.Time.Format
import Std.Time.Zoned

/-!
# The program

Runs one command. All that the command may look at is read beforehand: the
variables, the environment files in reach, the files that the arguments name,
and the log file. What the command has changed is written afterwards.
-/

namespace SchemaDesk

/-- The files that a command names. -/
def Command.files (command : Command) : List FilePath :=
  command.fileTexts.map .ofText

/-- The file that records go to, if the settings name one. -/
def Workspace.logFile? (workspace : Workspace) : Option FilePath :=
  match (Configuration.read ⟨workspace, none⟩ []).1 with
  | .ok settings => settings.logFile?
  | .error _ => none

namespace Program

/-- What is printed when the arguments make no command. -/
def usage : String :=
  "Usage: generate FILE [--out FILE] | validate FILE | inspect FILE | vocabulary\n"

/-- The text of the path to a place. -/
def placeText (place : Place) : String := (FilePath.mk .root place).text

/-- A variable and its value, as the environment lists it. -/
def readVariable? (entry : List UInt8) : Option (String × String) :=
  match Text.Utf8.decode entry with
  | .error _ => none
  | .ok text =>
    match text.span (· != '=') with
    | (_, []) => none
    | (name, _ :: value) => some (String.ofList name, String.ofList value)

/-- The variables of the environment. -/
def environment : IO (List (String × String)) := do
  let listed ← try IO.FS.readBinFile "/proc/self/environ" catch _ => pure ByteArray.empty
  return (listed.toList.splitOn 0).filterMap readVariable?

/-- What stands at a place. -/
def look (place : Place) : IO (Option Node) := do
  let target := (← IO.currentDir) / placeText place
  if ← target.isDir then
    return some .directory
  else if ← target.pathExists then
    return some (.file (← IO.FS.readBinFile target).toList)
  else
    return none

/-- The workspace with what stands at the given places. -/
def observe (workspace : Workspace) (places : List Place) : IO Workspace := do
  let mut seen := workspace
  for place in places do
    if (seen.node? place).isNone then
      if let some node ← look place then
        seen := seen.put place node
  return seen

/-- The first names of a list, from none to all of them. -/
def starts (names : List String) : List (List String) :=
  (List.range (names.length + 1)).map names.take

/-- The places that a path passes on its way, the last one included. -/
def placesOf (directory : Place) (path : FilePath) : List Place :=
  (starts path.names).map fun names => ({ path with names }.absolute directory).names

/-- The workspace that the command with these arguments starts from. -/
def start (arguments : List String) : IO Workspace := do
  let directory := (FilePath.ofText (← IO.currentDir).toString).names
  let reach ← observe ⟨[], directory, ← environment⟩
    (starts directory ++ EnvFile.candidates directory)
  let named := (Command.ofArguments? arguments).elim [] Command.files
  observe reach ((named ++ reach.logFile?.toList).flatMap (placesOf directory))

/-- Fresh ids are random, and records carry the present time. -/
def surroundings : IO Surroundings := do
  let seed ← IO.getRandomBytes 16
  let first := seed.toList.foldl (fun n byte => n * 256 + byte.toNat) 0
  let now ← Std.Time.PlainDateTime.now
  return ⟨fun n => String.ofList (Text.hex 32 (first + n)), now.format "uuuu-MM-dd HH:mm:ss,SSS"⟩

/-- Puts a node at a place. -/
def store (place : Place) : Node → IO Unit
  | .directory => IO.FS.createDirAll (placeText place)
  | .file bytes => IO.FS.writeBinFile (placeText place) ⟨bytes.toArray⟩

/-- Writes what differs from the workspace before. -/
def writeBack (before after : Workspace) : IO Unit := do
  for (place, node) in after.nodes do
    if before.node? place != some node then
      store place node

/-- Runs a command; the result is the exit status. -/
def run (arguments : List String) : IO UInt32 := do
  let before ← start arguments
  let outcome := runArguments (← surroundings) before arguments
  writeBack before outcome.workspace
  IO.print outcome.output
  IO.eprint outcome.errorStream
  if let some error := outcome.escaped? then
    IO.eprintln error.message
  if outcome.status = 2 then
    IO.eprint usage
  return outcome.status.toUInt32

end Program

end SchemaDesk

def main (arguments : List String) : IO UInt32 :=
  SchemaDesk.Program.run arguments
