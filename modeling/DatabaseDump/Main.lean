import DatabaseDump.Json
import DatabaseDump.Program

/-!
# The command line

Runs the program in the working directory. The configuration file is read, and the
files of the dump are written, here; all else is decided by `Program.run`.
-/

namespace DatabaseDump.CommandLine

/-- A server that nobody can reach, since no way to talk to one is built in. -/
def unreachable : Server :=
  { connectFailure := some (.server "no way to reach a server is built in")
    answer := fun _ _ => .error (.server "not connected") }

/-- The configuration file that the arguments name. -/
def namedConfig (arguments : List String) : String :=
  match read arguments with
  | .arguments given => Program.configPath given
  | _ => ""

/-- Reads a document from the disk. -/
def readDocument (path : String) : IO (Option Config.Document) := do
  if path.isEmpty then return none
  try
    match Json.parse? (← IO.FS.readFile path) with
    | some content => return some (.settings content)
    | none => return some .malformed
  catch _ => return none

/-- The variables that a document refers to, with their values. -/
def readEnvironment : Option Config.Document → IO Environment
  | some (.settings content) => do
    let values ← (Config.mentioned content).mapM fun name => do
      return (← IO.getEnv name).map (name, ·)
    return values.reduceOption
  | _ => return []

/-- The documents of a folder in which a configuration file lies. -/
def documentsIn (folder : Folder) (path : String) (document : Config.Document) :
    Folder × Config.Documents :=
  match folder.openForWriting (.ofText path) with
  | .ok location => (folder.put location [], [(location, document)])
  | .error _ => (folder, [])

/-- Tells on standard error what a run has to say there, with the usage for rejected arguments. -/
def complain (report : Program.Report) : IO Unit := do
  if report.ending = .exit 2 then IO.eprint usageText
  IO.eprint report.stderr
  unless report.stderr.isEmpty || report.stderr.endsWith "\n" do IO.eprintln ""

/-- Writes the files that a run left, those apart that were there before. -/
def writeFiles (before after : Folder) : IO Unit := do
  for location in after.directories do
    IO.FS.createDirAll ("/" ++ String.intercalate "/" location)
  for (location, content) in after.files do
    if (before.read? location) != some content then
      IO.FS.writeBinFile ("/" ++ String.intercalate "/" location) ⟨content.toArray⟩

end DatabaseDump.CommandLine

open DatabaseDump CommandLine in
/-- Runs the program and exits with its code. -/
def main (arguments : List String) : IO UInt32 := do
  let started ← IO.monoMsNow
  let path := namedConfig arguments
  let document ← readDocument path
  let base := (Path.ofText (toString (← IO.currentDir))).names
  let (folder, documents) := match document with
    | some document => documentsIn { base } path document
    | none => ({ base }, [])
  let environment ← readEnvironment document
  let seconds := fun (milliseconds : Nat) =>
    Seconds.binary (Float.ofScientific milliseconds true 3)
  let report := Program.run
    { arguments, environment, folder, documents, server := unreachable,
      clock := .ok (seconds started, seconds (← IO.monoMsNow)), stamp := toString started }
  writeFiles folder report.folder
  let out ← IO.getStdout
  out.write ⟨report.stdout.toArray⟩
  out.flush
  complain report
  match report.ending with
  | .exit code => return code.toUInt32
  | .failed failure =>
    IO.eprintln failure.message
    return 1
