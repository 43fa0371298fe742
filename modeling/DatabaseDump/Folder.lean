import DatabaseDump.Failure
import DatabaseDump.Path
import DatabaseDump.Text.Utf8

/-!
# The folder a dump works in

The files and directories that a dump can reach, addressed by their names from the
root down. Side files and log files are opened here, and a path that cannot be opened
fails for the first reason that shows up on the way down.
-/

namespace DatabaseDump

/-- Where something lies: the names from the root down to it. -/
abbrev Location := List String

/-- The longest name in bytes. -/
def maxNameBytes : Nat := 255

/-- The longest path in bytes. -/
def maxPathBytes : Nat := 4095

/-- Files and directories, with the directory that relative paths are read from. -/
structure Folder where
  /-- The working directory. It and all directories above it are there. -/
  base : Location
  directories : List Location := []
  files : List (Location × Bytes) := []
  deriving Repr

namespace Folder

/-- The working directory as a path. -/
def basePath (folder : Folder) : Path := ⟨"/", folder.base⟩

/-- Whether a directory lies there. -/
def isDirectory (folder : Folder) (location : Location) : Bool :=
  location.isPrefixOf folder.base || folder.directories.contains location

/-- What a file holds. -/
def read? (folder : Folder) (location : Location) : Option Bytes := folder.files.lookup location

/-- Writes a file as a whole: in its old place if there is one, else after the others. -/
def put (folder : Folder) (location : Location) (content : Bytes) : Folder :=
  if (folder.read? location).isSome then
    { folder with
      files := folder.files.map fun file =>
        if file.1 == location then (location, content) else file }
  else { folder with files := folder.files ++ [(location, content)] }

@[simp] theorem basePath_put (folder : Folder) (location : Location) (content : Bytes) :
    (folder.put location content).basePath = folder.basePath := by
  unfold put
  split
  · rfl
  · rfl

/-- A file that was written holds what was written. -/
@[simp] theorem read?_put (folder : Folder) (location : Location) (content : Bytes) :
    (folder.put location content).read? location = some content := by
  unfold put
  split
  · rename_i hthere
    show List.lookup location (folder.files.map _) = some content
    rw [read?] at hthere
    generalize folder.files = files at hthere
    induction files with
    | nil => cases hthere
    | cons file files ih =>
      by_cases hname : file.1 = location
      · simp [hname]
      · have hother : (location == file.1) = false := beq_eq_false_iff_ne.mpr (Ne.symm hname)
        have hkept : (file.1 == location) = false := beq_eq_false_iff_ne.mpr hname
        rw [List.lookup_cons, hother] at hthere
        rw [List.map_cons, hkept, if_neg Bool.false_ne_true, List.lookup_cons, hother]
        exact ih hthere
  · rename_i hthere
    show List.lookup location (folder.files ++ [(location, content)]) = some content
    have hnone : List.lookup location folder.files = none := Option.not_isSome_iff_eq_none.mp hthere
    rw [List.lookup_append, hnone]
    simp

/-- Adds to the end of a file. -/
def append (folder : Folder) (location : Location) (content : Bytes) : Folder :=
  folder.put location ((folder.read? location).getD [] ++ content)

/-- Walks down through directories. -/
def walk (folder : Folder) (location : Location) : List String → Except FileFault Location
  | [] => .ok location
  | name :: rest =>
    if name = ".." then folder.walk location.dropLast rest
    else if maxNameBytes < name.utf8ByteSize then .error .nameTooLong
    else
      let next := location ++ [name]
      if folder.isDirectory next then folder.walk next rest
      else if (folder.read? next).isSome then .error .notDirectory
      else .error .missing

/-- Where the names of a path are read from. -/
def start (folder : Folder) (path : Path) : Location :=
  if path.root.isEmpty then folder.base else []

/-- The directory that holds what a path names, and its last name. -/
def locate (folder : Folder) (path : Path) : Except FileFault (Location × String) := do
  match path.names.getLast? with
  | none => return (folder.start path, "..")
  | some name => return (← folder.walk (folder.start path) path.names.dropLast, name)

/-- Where a path leads that is to be opened as a file, whether or not there is one yet. -/
def locateFile (folder : Folder) (path : Path) : Except FileFault Location := do
  if maxPathBytes < path.text.utf8ByteSize then throw .nameTooLong
  let (directory, name) ← folder.locate path
  if name = ".." then throw .isDirectory
  if maxNameBytes < name.utf8ByteSize then throw .nameTooLong
  let location := directory ++ [name]
  if folder.isDirectory location then throw .isDirectory
  return location

/-- Whether a text holds the null character, which no path can. -/
def holdsNull (s : String) : Bool := s.toList.contains '\x00'

/-- Where a path leads that is to be opened for writing. -/
def openForWriting (folder : Folder) (path : Path) : Except Failure Location :=
  if holdsNull path.text then .error .nullInPath
  else match folder.locateFile path with
    | .ok location => .ok location
    | .error fault => .error (.file fault path.text)

/-- Whether a written path asks for a directory by its end. -/
def asksForDirectory (s : String) : Bool :=
  match (Text.splitOnChar '/' s.toList).getLast? with
  | some [] | some ['.'] => true
  | _ => false

/-- Where a path leads that is to be opened for reading. -/
def locateExisting (folder : Folder) (path : String) : Except FileFault Location := do
  let location ← folder.locateFile (.ofText path)
  if (folder.read? location).isNone then throw .missing
  if asksForDirectory path then throw .notDirectory
  return location

/-- Opens a file for reading under the path as it was written. -/
def openForReading (folder : Folder) (path : String) : Except Failure Location :=
  if holdsNull path then .error .nullInPath
  else if maxPathBytes < path.utf8ByteSize then .error (.file .nameTooLong path)
  else match folder.locateExisting path with
    | .ok location => .ok location
    | .error fault => .error (.file fault path)

/-- Makes one directory in a directory that is there. -/
def makeDirectory (folder : Folder) (path : Path) : Except FileFault Folder := do
  if maxPathBytes < path.text.utf8ByteSize then throw .nameTooLong
  let (directory, name) ← folder.locate path
  if name = ".." then throw .occupied
  if maxNameBytes < name.utf8ByteSize then throw .nameTooLong
  let location := directory ++ [name]
  if folder.isDirectory location || (folder.read? location).isSome then throw .occupied
  return { folder with directories := folder.directories ++ [location] }

/-- Whether a path leads to a directory. -/
def leadsToDirectory (folder : Folder) (path : Path) : Bool :=
  path.text.utf8ByteSize ≤ maxPathBytes &&
    match folder.walk (folder.start path) path.names with
    | .ok _ => true
    | .error _ => false

/-- Makes one directory unless it is there. -/
def ensureDirectory (folder : Folder) (path : Path) : Except FileFault Folder :=
  match folder.makeDirectory path with
  | .ok made => .ok made
  | .error fault => if folder.leadsToDirectory path then .ok folder else .error fault

/-- Makes a directory with all directories above it, those apart that are there. -/
def makeDirectories (folder : Folder) (path : Path) : Except Failure Folder :=
  match folder.ensureDirectory path with
  | .ok made => .ok made
  | .error .missing =>
    if _ : path.names = [] then .error (.file .missing path.text)
    else do
      let above ← folder.makeDirectories path.parent
      match above.ensureDirectory path with
      | .ok made => .ok made
      | .error fault => .error (.file fault path.text)
  | .error fault => .error (.file fault path.text)
termination_by path.names.length
decreasing_by
  have := List.length_pos_iff.mpr ‹_›
  simp only [Path.parent, List.length_dropLast]
  omega

/-- The files below the working directory, each under its path from there. -/
def listing (folder : Folder) : List (String × Bytes) :=
  folder.files.filterMap fun (location, content) =>
    if folder.base.isPrefixOf location then
      some (String.intercalate "/" (location.drop folder.base.length), content)
    else none

end Folder

end DatabaseDump
