import DatabaseDump.Log.File
import DatabaseDump.Value

/-!
# Setting up the log

The settings of the log give a threshold and, if wanted, a file that the records go to
as well. The directories above the file are made first. A few words mean something to
the log without being levels; that is noticed only when the file has been opened.
-/

namespace DatabaseDump.Log

/-- Where the records of a log go. -/
structure Setup where
  threshold : Nat
  file : Option Location := none
  deriving DecidableEq, Repr

/-- The log file of a setup, with a time stamp for its records. -/
def Setup.journal (setup : Setup) (stamp : String) : Option Journal :=
  setup.file.map fun location => ⟨location, setup.threshold, stamp⟩

/-- A letter in capitals, as far as the words that mean something have it. -/
def capital (c : Char) : List Char :=
  if c = 'ı' then ['I'] else if c = 'ſ' then ['S']
  else if c = 'ﬅ' ∨ c = 'ﬆ' then ['S', 'T'] else [c.toUpper]

/-- The layout that records have unless another one is set. -/
def standardLayout : String := "%(levelname)s:%(name)s:%(message)s"

/-- The words that mean something else than a level, with the failures they end in. -/
def otherWords : List (String × Failure) :=
  [("BASIC_FORMAT", .layoutAsLevel standardLayout), ("_STYLES", .stylesAsLevel)]

/-- Whether a word in capitals means anything to the log. -/
def isWord (word : String) : Bool :=
  (threshold? word).isSome || (otherWords.lookup word).isSome

/-- A member of settings, which have to be fields. -/
def member (settings : Value) (name : String) : Except Failure (Option Value) :=
  match settings with
  | .object fields => .ok (Fields.get? fields name)
  | other => .error (.sectionShape other.shape)

/-- The word in capitals that settings give for the level. -/
def levelWord (settings : Value) : Except Failure String := do
  match (← member settings "level").getD (.text "INFO") with
  | .text word =>
    let word := String.ofList (word.toList.flatMap capital)
    if isWord word then return word else throw (.unknownLevel word)
  | other => throw (.levelShape other.shape)

/-- The threshold that a word in capitals sets. -/
def thresholdOf (word : String) : Except Failure Nat :=
  match threshold? word with
  | some threshold => .ok threshold
  | none => .error ((otherWords.lookup word).getD (.unknownLevel word))

/-- The path of a log file as seen from the root. -/
def filePath (folder : Folder) (path : String) : Path :=
  (folder.basePath.join (.ofText path)).collapsed

/-- Opens a log file, in a folder where the directories above it have been made. -/
def openFile (folder : Folder) (path : String) : Except Failure (Location × Folder) := do
  let above := (Path.ofText path).parent
  if Folder.holdsNull above.text then throw .nullInPath
  let made ← folder.makeDirectories above
  let location ← made.openForWriting (filePath made path)
  return (location, made.append location [])

/-- Opens the log file that settings ask for, if they ask for one. -/
def openNamed (folder : Folder) (file : Value) : Except Failure (Option Location × Folder) := do
  if !file.isGiven then return (none, folder)
  match file with
  | .text path =>
    let (location, folder) ← openFile folder path
    return (some location, folder)
  | other => throw (.pathShape other.shape)

/-- The word for the level that settings give, and their log file once it is open. -/
def prepare (folder : Folder) (settings : Value) :
    Except Failure (String × Option Location × Folder) := do
  let word ← levelWord settings
  return (word, ← openNamed folder ((← member settings "file").getD .null))

/-- The log that settings ask for, and the folder after that. -/
def setUp (folder : Folder) (settings : Value) : Except Failure Setup × Folder :=
  match prepare folder settings with
  | .error failure => (.error failure, folder)
  | .ok (word, file, folder) => ((⟨·, file⟩) <$> thresholdOf word, folder)

/-- The settings of a log that is to tell everything. -/
def verbose : Value → Except Failure Value
  | .object fields => .ok (.object (Fields.set fields "level" (.text "DEBUG")))
  | other => .error (.logShape other.shape)

end DatabaseDump.Log
