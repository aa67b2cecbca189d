import SchemaDesk.Log
import SchemaDesk.Text.Printable

/-!
# Layouts of log lines

A layout is a list of pieces: characters that are written as they stand, and
directives, each of which shows one part of a record in a column. A layout may
ask for one character where a part has another length; such a record has no
line.
-/

namespace SchemaDesk.Text

/-! ## Columns

Texts in columns of a fixed width: filled with spaces on one side, or cut. A text that is wider
than its column is not cut by filling. -/

/-- The text at the left of a column. -/
def alignLeft (width : Nat) (text : List Char) : List Char :=
  text ++ List.replicate (width - text.length) ' '

/-- The text at the right of a column. -/
def alignRight (width : Nat) (text : List Char) : List Char :=
  List.replicate (width - text.length) ' ' ++ text

/-- The first characters of a text, at most as many as given. -/
def cut (limit? : Option Nat) (text : List Char) : List Char :=
  match limit? with
  | none => text
  | some limit => text.take limit

end SchemaDesk.Text

namespace SchemaDesk

/-- The parts of a record that a layout may show. -/
inductive RecordPart where
  | level
  | origin
  | message
  | time
deriving DecidableEq, Repr

namespace RecordPart

/-- The keys of the parts; the message has two. -/
def keys : List (String × RecordPart) :=
  [("levelname", level), ("name", origin), ("message", message), ("msg", message),
    ("asctime", time)]

/-- The part of a key. -/
def ofKey? (key : List Char) : Option RecordPart :=
  keys.lookup (String.ofList key)

/-- The text of a part of a record that is written at the given time. -/
def text (time : String) (record : LogRecord) : RecordPart → String
  | level => record.level.name
  | origin => record.origin
  | message => record.message
  | RecordPart.time => time

end RecordPart

/-- How a directive writes a text: as it stands, between quotes, between quotes in ASCII, or as the
one character that it must be. -/
inductive Conversion where
  | plain
  | quoted
  | quotedAscii
  | character
deriving DecidableEq, Repr

namespace Conversion

/-- The conversion that a letter asks for. -/
def ofLetter? : Char → Option Conversion
  | 's' => some plain
  | 'r' => some quoted
  | 'a' => some quotedAscii
  | 'c' => some character
  | _ => none

end Conversion

/-- The shape of the column of a directive: its width, at which side the text stands, and how many
characters are shown at most. -/
structure Column where
  leftAligned : Bool
  width : Nat
  limit? : Option Nat
deriving DecidableEq, Repr

namespace Column

/-- The text in the column. -/
def fill (column : Column) (text : List Char) : List Char :=
  if column.leftAligned then Text.alignLeft column.width text
  else Text.alignRight column.width text

/-- A text is written into the column; a single character is never cut. -/
def write? (column : Column) (conversion : Conversion) (text : List Char) : Option (List Char) :=
  match conversion with
  | .plain => some (column.fill (Text.cut column.limit? text))
  | .quoted => some (column.fill (Text.cut column.limit? (Text.Literal.write text)))
  | .quotedAscii => some (column.fill (Text.cut column.limit? (Text.Literal.writeAscii text)))
  | .character => if text.length = 1 then some (column.fill text) else none

end Column

/-- A piece of a layout. -/
inductive LayoutPiece where
  | character (c : Char)
  | directive (part : RecordPart) (conversion : Conversion) (column : Column)
deriving DecidableEq, Repr

/-- What a piece shows of a record. -/
def LayoutPiece.render? (time : String) (record : LogRecord) : LayoutPiece → Option (List Char)
  | character c => some [c]
  | directive part conversion column =>
    column.write? conversion (part.text time record).toList

/-- How a record is written. -/
abbrev LogLayout := List LayoutPiece

namespace LogLayout

/-- What the pieces show of a record, one after another. -/
def content? (time : String) (record : LogRecord) : LogLayout → Option (List Char)
  | [] => some []
  | piece :: pieces =>
    match piece.render? time record, content? time record pieces with
    | some first, some rest => some (first ++ rest)
    | _, _ => none

/-- The line of a record, if it has one. -/
def render? (layout : LogLayout) (time : String) (record : LogRecord) : Option String :=
  (layout.content? time record).map fun content => String.ofList (content ++ ['\n'])

/-- The layout that shows the message and nothing else. -/
def messageOnly : LogLayout := [.directive .message .plain ⟨false, 0, none⟩]

end LogLayout

end SchemaDesk
