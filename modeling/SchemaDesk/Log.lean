/-!
# Log records

What the program reports while it works: records with a level, the name of
their origin and a message. Levels are numbers; each has a name.

The names of origins form a hierarchy, in which points separate levels. Above
an origin stand the names before its points, the nearest first; of two points
in a row only the second one counts on the way up. A name counts if it is the
package or was used as an origin, and a record reaches the package if the way
up, from one name that counts to the next, leads there.
-/

namespace SchemaDesk

/-- The levels of records. -/
inductive Level where
  | notset | debug | info | warning | error | critical
deriving DecidableEq, Repr

namespace Level

def all : List Level := [notset, debug, info, warning, error, critical]

def value : Level → Nat
  | notset => 0
  | debug => 10
  | info => 20
  | warning => 30
  | error => 40
  | critical => 50

def name : Level → String
  | notset => "NOTSET"
  | debug => "DEBUG"
  | info => "INFO"
  | warning => "WARNING"
  | error => "ERROR"
  | critical => "CRITICAL"

/-- The level under one of its names; two levels have a second name. -/
def ofName? (text : String) : Option Level :=
  if text = "WARN" then some warning
  else if text = "FATAL" then some critical
  else all.find? fun level => level.name == text

theorem ofName?_name (level : Level) : ofName? level.name = some level := by
  cases level <;> decide

end Level

/-- One report. -/
structure LogRecord where
  level : Level
  origin : String
  message : String
deriving DecidableEq, Repr

/-- The name above all origins of the program. -/
def packageName : String := "prisma_modeler"

namespace LogRecord

/-- A report of the validation. -/
def ofValidation (message : String) : LogRecord :=
  ⟨.debug, packageName ++ ".schema.validators", message⟩

/-- A report of an edit. -/
def ofEdit (message : String) : LogRecord :=
  ⟨.info, packageName ++ ".schema.state", message⟩

/-- A report of the document writer. -/
def ofDocument (message : String) : LogRecord :=
  ⟨.debug, packageName ++ ".generator.prisma", message⟩

/-- A report of the command line. -/
def ofCommandLine (message : String) : LogRecord :=
  ⟨.error, packageName ++ ".cli.app", message⟩

end LogRecord

end SchemaDesk

namespace SchemaDesk.Origin

/-- The names above an origin, the nearest first; the name is given from its end. -/
def aboveReversed : List Char → List (List Char)
  | [] => []
  | [_] => []
  | '.' :: c :: rest => (c :: rest).reverse :: aboveReversed rest
  | _ :: rest => aboveReversed rest

/-- The names above an origin, the nearest first. -/
def above (name : String) : List String :=
  (aboveReversed name.toList.reverse).map String.ofList

/-- The way up leads to the package in at most as many steps as given. -/
def reachesWithin (used : List String) : Nat → String → Bool
  | 0, _ => false
  | steps + 1, name =>
    name == packageName ||
      match (above name).find? fun other => other == packageName || used.contains other with
      | some other => reachesWithin used steps other
      | none => false

/-- The way up from an origin leads to the package. Every step makes the name shorter, so no way is
cut off. -/
def reachesPackage (used : List String) (name : String) : Bool :=
  reachesWithin used (name.length + 1) name

/-- The full name of an origin; one outside the package is put below it. -/
def fullName (name : String) : String :=
  if packageName.toList.isPrefixOf name.toList then name else packageName ++ "." ++ name

end SchemaDesk.Origin
