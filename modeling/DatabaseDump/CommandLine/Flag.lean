import DatabaseDump.Failure
import DatabaseDump.Text.Blank
import DatabaseDump.Text.Search

/-!
# Flags

The flags of the command line, in the order in which messages list them. A flag sets
a setting, and its kind says what may stand after it.
-/

namespace DatabaseDump.CommandLine

/-- What a flag takes. -/
inductive FlagKind where
  /-- Asks for the help text. -/
  | help
  /-- Takes a text. -/
  | text
  /-- Takes a whole number. -/
  | integer
  /-- Takes a truth value, or nothing for true. -/
  | boolean
  /-- Takes nothing. -/
  | switch
  deriving DecidableEq, Repr

/-- A flag with all its spellings. -/
structure Flag where
  spellings : List String
  setting : String
  kind : FlagKind
  deriving DecidableEq, Repr

/-- All flags. -/
def flags : List Flag :=
  [⟨["--help"], "help", .help⟩,
   ⟨["-c", "--config"], "config", .text⟩,
   ⟨["-u"], "user", .text⟩,
   ⟨["-p"], "password", .text⟩,
   ⟨["-h"], "host", .text⟩,
   ⟨["-P"], "port", .integer⟩,
   ⟨["-db"], "database", .text⟩,
   ⟨["-tbl"], "tables", .text⟩,
   ⟨["-csv"], "csv", .boolean⟩,
   ⟨["-csv-field-delimiter"], "csv_field_delimiter", .text⟩,
   ⟨["-local-infile"], "local_infile", .boolean⟩,
   ⟨["-no-data"], "no_data", .boolean⟩,
   ⟨["-enable-escape"], "enable_escape", .boolean⟩,
   ⟨["-where"], "where", .text⟩,
   ⟨["-sys"], "sys_account", .boolean⟩,
   ⟨["-net-buffer-length"], "net_buffer_length", .integer⟩,
   ⟨["-v", "--verbose"], "verbose", .switch⟩,
   ⟨["--dry-run"], "dry_run", .switch⟩]

/-- Whether a flag takes nothing at all. -/
def Flag.isBare (flag : Flag) : Bool := flag.kind == .help || flag.kind == .switch

/-- How messages name a flag. -/
def Flag.shown (flag : Flag) : String := String.intercalate "/" flag.spellings

/-- Every spelling with its flag, in order. -/
def spellings : List (String × Flag) :=
  flags.flatMap fun flag => flag.spellings.map (·, flag)

/-- The flag with a spelling. -/
def flagSpelled? (spelling : String) : Option Flag := spellings.lookup spelling

/-- The truth value that a word stands for. -/
def readBoolean (text : String) : Except Failure Bool :=
  let word := Text.lowerAscii (Text.trim text)
  if ["1", "true", "yes", "on"].contains word then .ok true
  else if ["0", "false", "no", "off"].contains word then .ok false
  else .error (.notBoolean text)

end DatabaseDump.CommandLine
