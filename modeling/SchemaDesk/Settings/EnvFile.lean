import SchemaDesk.Table
import SchemaDesk.Text.Blank

/-!
# Environment files

A file of bindings `KEY=value`, one a line. A value stands bare, up to a
comment, or between quotes, where a backslash escapes; a quoted value may
contain line ends. A key without an equals sign is bound to nothing. A line
that has another form is skipped, and so is a byte order mark before the first
line. Values may refer to variables as `${NAME}` or `${NAME:-default}`.

Texts are read with line feeds as the only line ends.
-/

namespace SchemaDesk.EnvFile

/-- A key and its value, before references are expanded. -/
abbrev Binding := String × Option String

/-- White space within a line. -/
def isInlineBlank (c : Char) : Bool :=
  Text.isBlank c && c != '\n' && c != '\r'

def skipInline (text : List Char) : List Char :=
  text.dropWhile isInlineBlank

/-- Skips the word that marks a binding as exported, if white space follows it. -/
def skipExport (text : List Char) : List Char :=
  match "export".toList.isPrefixOf? text with
  | some (c :: rest) => if isInlineBlank c then skipInline rest else text
  | _ => text

/-- The character may stand in a bare key. -/
def isKeyChar (c : Char) : Bool :=
  c != '=' && c != '#' && !Text.isBlank c

/-- Reads up to the closing quote. A backslash takes the next character with it, so a quote after
one does not close. -/
def readQuoted (quote : Char) : List Char → Option (List Char × List Char)
  | [] => none
  | c :: rest =>
    if c = quote then some ([], rest)
    else if c = '\\' then
      match rest with
      | [] => none
      | d :: rest =>
        (readQuoted quote rest).map fun (content, rest) => (c :: d :: content, rest)
    else (readQuoted quote rest).map fun (content, rest) => (c :: content, rest)

/-- What the escapes of a text between double quotes stand for. -/
def doubleEscapes : List (Char × Char) :=
  [('\\', '\\'), ('\'', '\''), ('"', '"'), ('a', '\x07'), ('b', '\x08'), ('f', '\x0c'),
    ('n', '\n'), ('r', '\r'), ('t', '\t'), ('v', '\x0b')]

/-- What the escapes of a text between single quotes stand for. -/
def singleEscapes : List (Char × Char) :=
  [('\\', '\\'), ('\'', '\'')]

/-- The text with its escapes replaced; a backslash before another character stands for itself. -/
def decodeEscapes (escapes : List (Char × Char)) : List Char → List Char
  | [] => []
  | [c] => [c]
  | c :: d :: rest =>
    if c = '\\' then
      match escapes.lookup d with
      | some meaning => meaning :: decodeEscapes escapes rest
      | none => c :: decodeEscapes escapes (d :: rest)
    else c :: decodeEscapes escapes (d :: rest)

/-- Drops a comment, which begins with white space and a number sign. -/
def dropComment : List Char → List Char
  | [] => []
  | c :: rest =>
    if Text.isBlank c && ((c :: rest).dropWhile Text.isBlank).head? == some '#' then []
    else c :: dropComment rest

/-- Reads a bare value, up to the end of the line. White space before it may begin a comment. -/
def readBareValue (text : List Char) : List Char × List Char :=
  (Text.strip (dropComment (text.takeWhile (· != '\n'))), text.dropWhile (· != '\n'))

/-- A part that was read, or nothing, and where reading goes on. -/
inductive Part where
  | read (content : List Char) (rest : List Char)
  | failed (rest : List Char)
deriving DecidableEq, Repr

/-- Reads the value after the equals sign. -/
def readValue (text : List Char) : Part :=
  match skipInline text with
  | '\'' :: rest =>
    match readQuoted '\'' rest with
    | some (content, rest) => .read (decodeEscapes singleEscapes content) rest
    | none => .failed rest
  | '"' :: rest =>
    match readQuoted '"' rest with
    | some (content, rest) => .read (decodeEscapes doubleEscapes content) rest
    | none => .failed rest
  | _ =>
    let (content, rest) := readBareValue text
    .read content rest

/-- Reads a key, between single quotes or bare; neither may be empty. -/
def readKey (text : List Char) : Part :=
  match text with
  | '\'' :: rest =>
    match rest.takeWhile (· != '\''), rest.dropWhile (· != '\'') with
    | [], _ => .failed text
    | _, [] => .failed text
    | key, _ :: rest => .read key rest
  | _ =>
    match text.takeWhile isKeyChar with
    | [] => .failed text
    | key => .read key (text.dropWhile isKeyChar)

/-- Skips a comment and the end of a line. -/
def endLine? (text : List Char) : Option (List Char) :=
  let rest :=
    match skipInline text with
    | '#' :: rest => rest.dropWhile (· != '\n')
    | _ => text
  match skipInline rest with
  | [] => some []
  | '\n' :: rest => some rest
  | _ => none

/-- What follows a line of another form, from where reading failed. -/
def skipLine (text : List Char) : List Char :=
  (text.dropWhile (· != '\n')).drop 1

/-- A binding, if the line has one, and what follows the line. -/
def bindingAt (key : Option (List Char)) (value : Option (List Char)) (text : List Char) :
    Option Binding × List Char :=
  match endLine? text with
  | none => (none, skipLine text)
  | some rest =>
    (key.map fun key => (String.ofList key, value.map String.ofList), rest)

/-- Reads what follows a key. -/
def readAfterKey (key : List Char) (text : List Char) : Option Binding × List Char :=
  match skipInline text with
  | '=' :: rest =>
    match readValue rest with
    | .read value rest => bindingAt (some key) (some value) rest
    | .failed rest => (none, skipLine rest)
  | rest => bindingAt (some key) none rest

/-- Reads one line that is not blank. -/
def readLine (text : List Char) : Option Binding × List Char :=
  let text := skipExport text
  match text with
  | '#' :: _ => bindingAt none none text
  | _ =>
    match readKey text with
    | .read key rest => readAfterKey key rest
    | .failed rest => (none, skipLine rest)

/-- The bindings of a text, in at most as many lines as given. -/
def bindingsWithin : Nat → List Char → List Binding
  | 0, _ => []
  | limit + 1, text =>
    match text.dropWhile Text.isBlank with
    | [] => []
    | start =>
      let (binding?, rest) := readLine start
      binding?.toList ++ bindingsWithin limit rest

/-- The text without a byte order mark at its start. -/
def dropMark : List Char → List Char
  | '\ufeff' :: rest => rest
  | text => text

/-- The bindings of a text. Every line has at least one character, so no line is missed. -/
def bindings (text : List Char) : List Binding :=
  bindingsWithin text.length (dropMark text)

/-- A reference to a variable at the start of a text, after its opening, with the default that may
follow the name. -/
def readReference (text : List Char) : Option (List Char × List Char × List Char) :=
  let name := text.takeWhile fun c => c != '\x7d' && c != ':'
  match text.dropWhile fun c => c != '\x7d' && c != ':' with
  | '\x7d' :: rest => some (name, [], rest)
  | ':' :: '-' :: rest =>
    match rest.dropWhile (· != '\x7d') with
    | _ :: after => some (name, rest.takeWhile (· != '\x7d'), after)
    | [] => none
  | _ => none

/-- The text with its references replaced. Characters of a reference that was replaced are
skipped. -/
def expandFrom (valueOf : String → Option String) (skip : Nat) : List Char → List Char
  | [] => []
  | c :: rest =>
    match skip with
    | skip + 1 => expandFrom valueOf skip rest
    | 0 =>
      match c, rest with
      | '$', '\x7b' :: opened =>
        match readReference opened with
        | some (name, default, after) =>
          let value := ((valueOf (String.ofList name)).map String.toList).getD default
          value ++ expandFrom valueOf (rest.length - after.length) rest
        | none => c :: expandFrom valueOf 0 rest
      | _, _ => c :: expandFrom valueOf 0 rest

/-- The value with its references replaced. -/
def expand (valueOf : String → Option String) (value : String) : String :=
  String.ofList (expandFrom valueOf 0 value.toList)

/-- The value that the bindings so far give a name; a name that is bound to nothing has the empty
value, and a variable of the environment goes first. -/
def knownValue (environment : List (String × String)) (resolved : List Binding) (name : String) :
    Option String :=
  match environment.lookup name with
  | some value => some value
  | none => (resolved.reverse.lookup name).map (·.getD "")

/-- The bindings with their references replaced by earlier bindings and variables. -/
def resolve (environment : List (String × String)) (resolved : List Binding) :
    List Binding → List Binding
  | [] => resolved
  | (key, value) :: rest =>
    let value := value.map (expand (knownValue environment resolved))
    resolve environment (resolved ++ [(key, value)]) rest

/-- The keys of bindings in the order of their first occurrence, each with its last value. -/
def lastValues (resolved : List Binding) : List Binding :=
  resolved.foldl (fun found binding => Table.set binding.1 binding.2 found) []

end SchemaDesk.EnvFile
