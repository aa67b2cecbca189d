/-!
# Paths

A path is a list of names that starts at a directory or at the root. In a text,
names are separated by slashes; empty names and single points do not count, and
the path without names is written as a point. Exactly two slashes at the start
are kept as they are, since they may mean another root; more of them are one.
-/

namespace SchemaDesk

/-- Where a path starts: at the current directory or at the root, which is written with one slash
or with two. -/
inductive Anchor where
  | current
  | root
  | doubled
deriving DecidableEq, Repr

namespace Anchor

/-- The slashes at the start of a path. -/
def text : Anchor → String
  | current => ""
  | root => "/"
  | doubled => "//"

/-- The anchor of a text that starts with the given number of slashes. -/
def ofSlashes : Nat → Anchor
  | 0 => current
  | 2 => doubled
  | _ => root

end Anchor

structure FilePath where
  anchor : Anchor
  names : List String
deriving DecidableEq, Repr

namespace FilePath

/-- The name that leads to the directory above. -/
def above : String := ".."

/-- The path that a text denotes. -/
def ofText (text : String) : FilePath where
  anchor := .ofSlashes (text.toList.takeWhile (· == '/')).length
  names := ((text.toList.splitOn '/').map String.ofList).filter fun name =>
    !name.isEmpty && name != "."

/-- The text of a path. -/
def text (path : FilePath) : String :=
  if path.anchor = .current && path.names.isEmpty then "."
  else path.anchor.text ++ "/".intercalate path.names

/-- The path of the directory that holds what the path names. -/
def parent (path : FilePath) : FilePath :=
  { path with names := path.names.dropLast }

/-- The names that are left when every name is taken back by a step to the directory above. -/
def collapse (start names : List String) : List String :=
  names.foldl (fun walked name => if name = above then walked.dropLast else walked ++ [name]) start

/-- The path from the root, without steps to the directory above. The names of the current directory
are given. -/
def absolute (directory : List String) (path : FilePath) : FilePath :=
  match path.anchor with
  | .current => ⟨.root, collapse directory path.names⟩
  | anchor => ⟨anchor, collapse [] path.names⟩

end FilePath

end SchemaDesk
