import SchemaDesk.Workspace.Basic

/-!
# Variables of the environment

A variable has a name and a value, and neither may hold a null character. The
name may be any other text that is not empty and has no equals sign.
-/

namespace SchemaDesk

/-- Why a variable cannot be set. -/
inductive VariableError where
  | nullCharacter
  | equalsSign
  | noName
deriving DecidableEq, Repr

def VariableError.message : VariableError → String
  | nullCharacter => "embedded null byte"
  | equalsSign => "illegal environment variable name"
  | noName => "[Errno 22] Invalid argument"

/-- What is wrong with a name and a value of a variable, if anything is. -/
def VariableError.find? (name value : String) : Option VariableError :=
  if name.toList.contains '\x00' || value.toList.contains '\x00' then some nullCharacter
  else if name.toList.contains '=' then some equalsSign
  else if name.isEmpty then some noName
  else none

namespace Workspace

/-- The value of a variable. -/
def valueOf? (workspace : Workspace) (name : String) : Option String :=
  workspace.environment.lookup name

/-- The workspace with a value for a variable. -/
def withVariable (workspace : Workspace) (name value : String) : Workspace :=
  { workspace with environment := Table.set name value workspace.environment }

/-- Sets a variable. -/
def setVariable (workspace : Workspace) (name value : String) : Except VariableError Workspace :=
  match VariableError.find? name value with
  | some error => .error error
  | none => .ok (workspace.withVariable name value)

/-- Removes a variable. -/
def unsetVariable (workspace : Workspace) (name : String) : Workspace :=
  { workspace with environment := Table.unset name workspace.environment }

end Workspace

end SchemaDesk
