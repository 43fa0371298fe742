import DatabaseDump.CommandLine.Token
import DatabaseDump.Text.Numeral
import DatabaseDump.Value

/-!
# Arguments

Reading the command line. Every flag puts a value under the name of its setting, and
of repeated flags the last one counts. What belongs to no flag is collected and
rejected at the end; asking for help ends the reading at once.

In two places releases of the argument reader differ, and what is read here is what was
read before 3.11.9. A pair of dashes that is attached to a flag is dropped like one that
stands alone (`effective`). In a cluster a letter that is no flag, with all that follows
it, is a needless value of the flag before it (`readCluster`).
-/

namespace DatabaseDump.CommandLine

/-- What the arguments come to. -/
inductive Reading where
  | arguments (given : Fields)
  | help
  | rejected (fault : UsageFault)

/-- Why the reading of arguments ends early. -/
inductive Stop where
  | help
  | fault (fault : UsageFault)
  deriving DecidableEq, Repr

/-- What was read so far: the settings given, and the arguments that belong to no flag. -/
structure Progress where
  given : Fields := []
  extras : List String := []

/-- A lone pair of dashes counts for nothing, even where it is the value of a flag. -/
def effective (text : Option String) : Option String := text.filter (· != "--")

/-- The value of a flag that takes one. -/
def readValue (flag : Flag) (text : Option String) : Except Stop Value :=
  match flag.kind, effective text with
  | .help, _ => .error .help
  | .switch, _ => .ok (.bool true)
  | .boolean, none => .ok (.bool true)
  | .boolean, some s =>
    match readBoolean s with
    | .ok b => .ok (.bool b)
    | .error _ => .error (.fault (.notBoolean flag s))
  | .text, none => .ok (.list [])
  | .text, some s => .ok (.text s)
  | .integer, none => .ok (.list [])
  | .integer, some s =>
    match Text.readInteger s with
    | .ok n => .ok (.int n)
    | .error _ => .error (.fault (.notInteger flag s))

/-- Puts the value of a flag under its setting. -/
def Progress.take (progress : Progress) (flag : Flag) (text : Option String) :
    Except Stop Progress := do
  return { progress with given := progress.given.set flag.setting (← readValue flag text) }

/-- Sets aside an argument that belongs to no flag. -/
def Progress.setAside (progress : Progress) (text : String) : Progress :=
  { progress with extras := progress.extras ++ [text] }

/-- Several flags behind one dash: those that take nothing, then the last one. -/
structure Cluster where
  bare : List Flag
  last : Flag
  attached : Option String

/-- The flag of one letter. -/
def letterFlag? (c : Char) : Option Flag := flagSpelled? (String.ofList ['-', c])

/--
Reads what is attached to a flag. What follows a flag that takes nothing is the letter
of another flag, with the rest attached to that one.
-/
def readCluster (flag : Flag) : List Char → Except UsageFault Cluster
  | [] =>
    if flag.isBare then .error (.needlessValue flag "") else .ok ⟨[], flag, some ""⟩
  | c :: rest =>
    if !flag.isBare then .ok ⟨[], flag, some (String.ofList (c :: rest))⟩
    else match letterFlag? c with
      | none => .error (.needlessValue flag (String.ofList (c :: rest)))
      | some next =>
        if rest.isEmpty then .ok ⟨[flag], next, none⟩
        else do
          let cluster ← readCluster next rest
          return { cluster with bare := flag :: cluster.bare }

/-- Whether a flag was spelled with two dashes. -/
def hasTwoDashes (spelling : String) : Bool := "--".toList.isPrefixOf spelling.toList

/-- The flags that one token stands for. -/
def clusterOf (flag : Flag) (spelling : String) : Option String → Except UsageFault Cluster
  | none => .ok ⟨[], flag, none⟩
  | some attached =>
    if flag.isBare && hasTwoDashes spelling then .error (.needlessValue flag attached)
    else readCluster flag attached.toList

/-- Takes the flags of a cluster, the last one with its value. -/
def Progress.takeCluster (progress : Progress) (cluster : Cluster) (text : Option String) :
    Except Stop Progress := do
  let progress ← cluster.bare.foldlM (fun progress flag => progress.take flag none) progress
  progress.take cluster.last text

/-- Whether a flag can do without a value. -/
def Flag.needsNone (flag : Flag) : Bool := flag.isBare || flag.kind == .boolean

/-- Reads tokens from left to right. -/
def readTokens (progress : Progress) : List Token → Except Stop Progress
  | [] => .ok progress
  | .value text :: rest => readTokens (progress.setAside text) rest
  | .unknown text :: rest => readTokens (progress.setAside text) rest
  | .separator :: rest => readTokens (progress.setAside "--") rest
  | .flag flag spelling attached :: rest =>
    match clusterOf flag spelling attached with
    | .error fault => .error (.fault fault)
    | .ok cluster =>
      match cluster.attached, rest with
      | some text, rest => do readTokens (← progress.takeCluster cluster (some text)) rest
      | none, .value text :: after =>
        if cluster.last.isBare then do
          readTokens (← progress.takeCluster cluster none) (.value text :: after)
        else do readTokens (← progress.takeCluster cluster (some text)) after
      | none, rest =>
        if cluster.last.needsNone then do
          readTokens (← progress.takeCluster cluster none) rest
        else .error (.fault (.missingValue cluster.last))

/-- Reads the arguments of the command line. -/
def read (arguments : List String) : Reading :=
  match tokens arguments with
  | .error fault => .rejected fault
  | .ok tokens =>
    match readTokens {} tokens with
    | .error .help => .help
    | .error (.fault fault) => .rejected fault
    | .ok progress =>
      if progress.extras.isEmpty then .arguments progress.given
      else .rejected (.unrecognized progress.extras)

/-- Whether a switch was given. -/
def isGiven (given : Fields) (setting : String) : Bool := (given.getOrNull setting).isGiven

/-- The settings that the command line takes over the configuration. -/
def overriding : List String :=
  ["user", "password", "host", "port", "database", "tables", "csv", "csv_field_delimiter",
   "local_infile", "no_data", "enable_escape", "where", "sys_account", "net_buffer_length"]

/-- Puts what was given on the command line over other settings. -/
def override (settings given : Fields) : Fields :=
  overriding.foldl (fun settings name =>
    match given.get? name with
    | some value => settings.set name value
    | none => settings) settings

end DatabaseDump.CommandLine
