/-!
# The help text

What the program says about its own command line, in eighty columns.
-/

namespace DatabaseDump.CommandLine

/-- How the program is called. -/
def usageLines : List String :=
  ["usage: modump [--help] [-c CONFIG] [-u USER] [-p PASSWORD] [-h HOST] [-P PORT]",
   "              [-db DATABASE] [-tbl TABLES] [-csv [CSV]]",
   "              [-csv-field-delimiter CSV_FIELD_DELIMITER]",
   "              [-local-infile [LOCAL_INFILE]] [-no-data [NO_DATA]]",
   "              [-enable-escape [ENABLE_ESCAPE]] [-where WHERE]",
   "              [-sys [SYS_ACCOUNT]] [-net-buffer-length NET_BUFFER_LENGTH] [-v]",
   "              [--dry-run]"]

/-- What the flags are for. -/
def flagLines : List String :=
  ["",
   "modump - dump MatrixOne databases as SQL or CSV",
   "",
   "options:",
   "  --help                Show this help message and exit",
   "  -c CONFIG, --config CONFIG",
   "                        Path to an optional YAML configuration file",
   "  -u USER               username (default: dump)",
   "  -p PASSWORD           password (default: 111)",
   "  -h HOST               hostname (default: 127.0.0.1)",
   "  -P PORT               port number (default: 6001)",
   "  -db DATABASE          database name(s), comma separated, or \"all\"; must be",
   "                        specified",
   "  -tbl TABLES           table name list, comma separated (default all)",
   "  -csv [CSV]            set export format to csv (default false)",
   "  -csv-field-delimiter CSV_FIELD_DELIMITER",
   "                        csv field delimiter, only one utf8 character (default",
   "                        \",\")",
   "  -local-infile [LOCAL_INFILE]",
   "                        use load data local infile (default true)",
   "  -no-data [NO_DATA]    dump database and table definitions only (default",
   "                        false)",
   "  -enable-escape [ENABLE_ESCAPE]",
   "                        escape special characters in csv output (default",
   "                        false)",
   "  -where WHERE          dump only rows matching this WHERE clause",
   "  -sys [SYS_ACCOUNT]    restrict the catalog to the 'sys' account",
   "  -net-buffer-length NET_BUFFER_LENGTH",
   "                        maximum size in bytes of one INSERT statement (default",
   "                        1048576)",
   "  -v, --verbose         Enable verbose output",
   "  --dry-run             Show what would be dumped without actually dumping"]

/-- Lines as a text. -/
def unlines (lines : List String) : String := String.join (lines.map (· ++ "\n"))

/-- The text that rejected arguments are answered with first. -/
def usageText : String := unlines usageLines

/-- The help text. -/
def helpText : String := unlines (usageLines ++ flagLines)

end DatabaseDump.CommandLine
