import SchemaDesk.Table
import SchemaDesk.Workspace.Path

/-!
# Workspaces

What a run of the program sees and changes: files and directories, the current
directory and the variables of the environment. Places are lists of names from
the root of all directories, which always exists.
-/

namespace SchemaDesk

/-- The names on the way from the root. -/
abbrev Place := List String

/-- What stands at a place. -/
inductive Node where
  | file (bytes : List UInt8)
  | directory
deriving DecidableEq, Repr

structure Workspace where
  nodes : List (Place × Node)
  directory : Place
  environment : List (String × String)
deriving Repr

namespace Workspace

/-- What stands at a place. -/
def node? (workspace : Workspace) (place : Place) : Option Node :=
  if place.isEmpty then some .directory else workspace.nodes.lookup place

/-- The workspace with something put at a place. -/
def put (workspace : Workspace) (place : Place) (node : Node) : Workspace :=
  { workspace with nodes := Table.set place node workspace.nodes }

/-- What was put below the root stands at its place. -/
theorem node?_put (workspace : Workspace) (place : Place) (node : Node) (below : place ≠ []) :
    (workspace.put place node).node? place = some node := by
  simp [node?, put, below, Table.lookup_set_self]

/-- A directory that was put is there; the root is one anyway. -/
theorem node?_put_directory (workspace : Workspace) (place : Place) :
    (workspace.put place .directory).node? place = some .directory := by
  by_cases root : place = []
  · simp [node?, root]
  · exact node?_put workspace place .directory root

/-- Putting something at a place leaves all other places as they are. -/
theorem node?_put_of_ne (workspace : Workspace) {place other : Place} (node : Node)
    (differs : other ≠ place) : (workspace.put place node).node? other = workspace.node? other := by
  simp [node?, put, Table.lookup_set_of_ne node workspace.nodes differs]

end Workspace

end SchemaDesk
