/-!
# Command-line arguments

The commands and their arguments. Options may stand anywhere among the
arguments, a double hyphen ends them, and the last of several values counts.
Anything else is a usage error, and so is a file name that no file can have.
-/

namespace SchemaDesk

/-- What the program is asked to do. Files are named by texts. -/
inductive Command where
  | generate (file : String) (out? : Option String)
  | validate (file : String)
  | inspect (file : String)
  | vocabulary
deriving DecidableEq, Repr

/-- The option that names an output file. -/
def outOption : String := "--out"

/-- An argument of a command: a plain one, or an option with its value if that is attached. -/
inductive Argument where
  | plain (text : String)
  | out (attached? : Option String)
  | unknown
  | separator
deriving DecidableEq, Repr

namespace Argument

/-- Takes an argument apart. A single hyphen is a plain argument. -/
def ofText (text : String) : Argument :=
  match text.toList with
  | ['-', '-'] => separator
  | '-' :: '-' :: _ =>
    if text = outOption then out none
    else
      match (outOption ++ "=").toList.isPrefixOf? text.toList with
      | some value => out (some (String.ofList value))
      | none => unknown
  | ['-', 'o'] => out none
  | '-' :: 'o' :: value => out (some (String.ofList value))
  | '-' :: _ :: _ => unknown
  | _ => plain text

end Argument

/-- The plain arguments, and the value of the output option. -/
structure SplitArguments where
  plain : List String
  out? : Option String
deriving DecidableEq, Repr

/-- Separates options from plain arguments. An option without an attached value takes the next
argument, whatever it is. -/
def splitArguments : List String → Option SplitArguments
  | [] => some ⟨[], none⟩
  | text :: rest =>
    match Argument.ofText text with
    | .plain text =>
      (splitArguments rest).map fun split => { split with plain := text :: split.plain }
    | .separator => some ⟨rest, none⟩
    | .unknown => none
    | .out (some value) =>
      (splitArguments rest).map fun split => { split with out? := split.out?.or (some value) }
    | .out none =>
      match rest with
      | [] => none
      | value :: rest =>
        (splitArguments rest).map fun split => { split with out? := split.out?.or (some value) }

/-- The one file that a command takes. -/
def onlyFile? (split : SplitArguments) : Option String :=
  match split.plain with
  | [file] => some file
  | _ => none

/-- The file of a command that has no options. -/
def fileWithoutOptions? (arguments : List String) : Option String := do
  let split ← splitArguments arguments
  if split.out?.isSome then none else onlyFile? split

/-- The command with the given name and arguments. -/
def Command.named (name : String) (arguments : List String) : Option Command :=
  if name = "generate" then do
    let split ← splitArguments arguments
    let file ← onlyFile? split
    some (.generate file split.out?)
  else if name = "validate" then (fileWithoutOptions? arguments).map .validate
  else if name = "inspect" then (fileWithoutOptions? arguments).map .inspect
  else if name = "vocabulary" then do
    let split ← splitArguments arguments
    if split.plain.isEmpty && split.out?.isNone then some .vocabulary else none
  else none

/-- The texts by which a command names files. -/
def Command.fileTexts : Command → List String
  | generate file out? => file :: out?.toList
  | validate file => [file]
  | inspect file => [file]
  | vocabulary => []

/-- A text can name a file unless it holds a null character. -/
def canNameFile (text : String) : Bool :=
  !text.toList.contains '\x00'

/-- The command that a list of arguments gives, or nothing for a usage error. -/
def Command.ofArguments? (arguments : List String) : Option Command :=
  let command? :=
    match arguments with
    | "--" :: name :: arguments => Command.named name arguments
    | name :: arguments => Command.named name arguments
    | [] => none
  command?.filter fun command => command.fileTexts.all canNameFile

end SchemaDesk
