import DatabaseDump.CommandLine.Arguments
import DatabaseDump.CommandLine.Help
import DatabaseDump.Config.File
import DatabaseDump.Dump.DryRun
import DatabaseDump.Dump.Run
import DatabaseDump.Elapsed
import DatabaseDump.Log.Setup
import DatabaseDump.Options.Settings

/-!
# The program

A run of the program from its arguments to its exit. The dump goes to standard output,
with a closing comment that is written only when the dump is complete. Help that was
not asked for, log records and the reason of a failure go to standard error.
-/

namespace DatabaseDump.Program

open Work

/-- What a run of the program depends on. -/
structure Invocation where
  arguments : List String
  environment : Environment := []
  folder : Folder
  documents : Config.Documents := []
  server : Server
  /-- The clock in seconds at the start and at the end, if it shows a time at all. -/
  clock : Except Failure (Seconds × Seconds) := .ok (.binary 0.0, .binary 1.5)
  /-- The time stamp of written records. -/
  stamp : String := "T"

/-- How a run ends: with an exit code, or by a failure that nobody handled. -/
inductive Ending where
  | exit (code : Nat)
  | failed (failure : Failure)
  deriving DecidableEq, Repr

/-- What a run leaves behind. -/
structure Report where
  ending : Ending
  stdout : Bytes := []
  stderr : String := ""
  folder : Folder
  calls : List Call := []

/-- What stands before the reason of a failure. -/
def complaint (reason : String) : String := "modump error: " ++ reason

/-- The comment that closes a complete dump. -/
def trailer (elapsed : String) : String :=
  "/* MODUMP SUCCESS, COST " ++ elapsed ++ " */\n"

/-- The comment that reminds of the side files. -/
def reminder : String :=
  "/* !!!MUST KEEP FILE IN CURRENT DIRECTORY, "
    ++ "OR YOU SHOULD CHANGE THE PATH IN LOAD DATA STMT!!! */ \n"

/-- What is written after a complete dump. -/
def closing (format : Format) (elapsed : String) : Bytes :=
  Text.utf8 (trailer elapsed ++ if format = .csv then reminder else "")

/-- What became of the work of a run. -/
inductive Outcome where
  /-- Every database was dumped. -/
  | dumped (options : Options)
  /-- It was told what would be dumped. -/
  | told

/-- How the options say to log in. -/
def loginOf (options : Options) : Login :=
  { host := .text options.host, port := .int options.port, user := .text options.user,
    password := .text options.password }

/-- What is done while connected. -/
def connected (server : Server) (options : Options) (dryRun : Bool) : Work Outcome := do
  let writer ← ofResult (Dump.Writer.ofOptions options)
  if dryRun then
    Dump.DryRun.run server options
    return .told
  else
    let _ ← Dump.run server options writer
    return .dumped options

/-- The work of a run, from merging the settings on. -/
def work (server : Server) (config : Value) (given : Fields) : Work Outcome := do
  let settings := CommandLine.override (← ofResult (Config.settings config)) given
  record (Options.warnings settings)
  let options ← ofResult (Options.ofSettings settings)
  Connection.during server (loginOf options)
    (connected server options (CommandLine.isGiven given "dry_run"))

/-- The last records of a complete dump. -/
def summary (stats : DumpStats) : List Log.Record :=
  ["==================================================",
   "DUMP COMPLETE",
   "Databases: " ++ toString stats.databases.length,
   "Tables: " ++ toString stats.totalTables,
   "Total Rows: " ++ toString stats.totalRows].map (⟨.info, ·⟩)

/-- The bytes of what a session wrote. -/
def outputBytes (session : Session) : Bytes := session.output.flatMap Sql.Statement.bytes

/-- How a run is concluded after its work. -/
structure Conclusion where
  records : List Log.Record
  ending : Ending
  stdout : Bytes := []
  stderr : String := ""

/-- The report of a session and its conclusion. -/
def conclude (stamp : String) (threshold : Nat) (session : Session) (last : Conclusion) :
    Report :=
  let session := session.logged last.records
  { ending := last.ending
    stdout := outputBytes session ++ last.stdout
    stderr := Log.lines stamp (Log.visible threshold session.log) ++ last.stderr
    folder := session.folder
    calls := session.calls }

/-- The conclusion of a complete dump, which fails when its time cannot be told. -/
def dumpConclusion (format : Format) (stats : DumpStats) : Except Failure String → Conclusion
  | .ok elapsed =>
    { records := summary stats, ending := .exit 0, stdout := closing format elapsed }
  | .error failure => { records := summary stats, ending := .failed failure }

/--
The conclusion that an outcome calls for. Where debug records are shown, the one about a dump that
was aborted is followed by a traceback of the failure. Its lines depend on where the program is
installed, and they are left out here.
-/
def conclusion (elapsed : Except Failure String) (stats : DumpStats) :
    Except Failure Outcome → Conclusion
  | .error failure =>
    { records := [⟨.debug, "Dump aborted"⟩], ending := .exit 1,
      stderr := complaint failure.message ++ "\n" }
  | .ok .told => { records := [], ending := .exit 0 }
  | .ok (.dumped options) => dumpConclusion options.format stats elapsed

/-- The text of the time that a run took. -/
def elapsed (clock : Except Failure (Seconds × Seconds)) : Except Failure String := do
  let (first, last) ← clock
  (← Seconds.between first last).text

/-- Does the work of a run and reports on it. -/
def perform (invocation : Invocation) (config : Value) (given : Fields) (setup : Log.Setup)
    (folder : Folder) : Report :=
  let (outcome, session) := (work invocation.server config given).start
    { folder, journal := setup.journal invocation.stamp }
  conclude invocation.stamp setup.threshold session
    (conclusion (elapsed invocation.clock) session.stats outcome)

/-- The settings of the log. -/
def logSettings (config : Value) (given : Fields) : Except Failure Value := do
  let settings ← Config.logging config
  if CommandLine.isGiven given "verbose" then Log.verbose settings else return settings

/-- Goes on with a configuration that has been read. -/
def withConfig (invocation : Invocation) (config : Value) (given : Fields) : Report :=
  match logSettings config given with
  | .error failure => { ending := .failed failure, folder := invocation.folder }
  | .ok settings =>
    match Log.setUp invocation.folder settings with
    | (.error failure, folder) => { ending := .failed failure, folder }
    | (.ok setup, folder) => perform invocation config given setup folder

/-- The path of the configuration file, empty when there is none. -/
def configPath (given : Fields) : String :=
  match given.getOrNull "config" with
  | .text path => path
  | _ => ""

/-- The report of a run that ends before it does anything. -/
def refuse (invocation : Invocation) (code : Nat) (stdout stderr : String) : Report :=
  { ending := .exit code, stdout := Text.utf8 stdout, stderr, folder := invocation.folder }

/-- What a missing configuration file is answered with. -/
def notFound (path : String) : String :=
  complaint ("configuration file " ++ betweenQuotes path ++ " not found\n")

/--
What a malformed configuration file is answered with, up to the colon. Behind it stands what the
reader of the file says is wrong and where; that text is left out, and the newline after it.
-/
def malformedConfig : String := complaint "invalid YAML in configuration file: "

/-- Goes on with arguments that have been read. -/
def withArguments (invocation : Invocation) (given : Fields) : Report :=
  let path := configPath given
  match Config.load invocation.folder invocation.documents invocation.environment path with
  | .error (.unreadable (.file .missing _)) => refuse invocation 1 "" (notFound path)
  | .error .malformed => refuse invocation 1 "" malformedConfig
  | .error (.unreadable failure) =>
    { ending := .failed failure, folder := invocation.folder }
  | .ok config => withConfig invocation config given

/-- The last line of a text, blanks at its end apart. -/
def lastLine (s : String) : String :=
  let reversed := s.toList.reverse.dropWhile Text.isBlank
  String.ofList (reversed.takeWhile (· != '\n')).reverse

/-- The last line of what rejected arguments are answered with. -/
def rejection (fault : CommandLine.UsageFault) : String :=
  lastLine ("modump: error: " ++ fault.message)

/-- A run of the program. -/
def run (invocation : Invocation) : Report :=
  if invocation.arguments.isEmpty then refuse invocation 0 "" CommandLine.helpText
  else match CommandLine.read invocation.arguments with
    | .help => refuse invocation 0 CommandLine.helpText ""
    | .rejected fault => refuse invocation 2 "" (rejection fault)
    | .arguments given => withArguments invocation given

end DatabaseDump.Program
