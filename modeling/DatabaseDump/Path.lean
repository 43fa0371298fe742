import DatabaseDump.Text.Search

/-!
# Paths

A path is a list of names below a root or below the place it is read from. Repeated
slashes and single dots mean nothing and are dropped; two dots are kept, since where
they lead depends on what lies there. Exactly two slashes in front are a root of
their own.
-/

namespace DatabaseDump

/-- A path by its root, empty for a relative one, and its names. -/
structure Path where
  root : String := ""
  names : List String := []
  deriving DecidableEq, Repr

namespace Path

/-- The root that a text opens with. -/
def rootOf (s : List Char) : String :=
  match (s.takeWhile (· == '/')).length with
  | 0 => ""
  | 2 => "//"
  | _ => "/"

/-- The pieces of a text between slashes, without empty ones and single dots. -/
def namesOf (s : List Char) : List String :=
  ((Text.splitOnChar '/' s).map String.ofList).filter fun name => name != "" && name != "."

/-- The path that a text stands for. -/
def ofText (s : String) : Path := ⟨rootOf s.toList, namesOf s.toList⟩

/-- The text of a path. A relative path without names is a single dot. -/
def text (path : Path) : String :=
  if path.root.isEmpty && path.names.isEmpty then "."
  else path.root ++ String.intercalate "/" path.names

/-- The second path as read from the first one; with a root of its own it stands alone. -/
def join (path other : Path) : Path :=
  if other.root.isEmpty then ⟨path.root, path.names ++ other.names⟩ else other

/-- The path without its last name. -/
def parent (path : Path) : Path := { path with names := path.names.dropLast }

/-- One more name after names in which two dots have been taken back already. -/
def step (before : List String) (name : String) : List String :=
  if name = ".." then before.dropLast else before ++ [name]

/-- A path with a root, in which two dots take back the name before them. -/
def collapsed (path : Path) : Path := { path with names := path.names.foldl step [] }

end Path

end DatabaseDump
