import DatabaseDump.Text.Numeral
import DatabaseDump.Text.Quoted
import DatabaseDump.Value

/-!
# Failures

Every way in which a dump, or what leads up to it, can fail. A failure is a cause;
its wording is a function of the cause.
-/

namespace DatabaseDump

/-- Why a file cannot be opened or a directory cannot be made. -/
inductive FileFault where
  | missing
  | occupied
  | notDirectory
  | isDirectory
  | nameTooLong
  deriving DecidableEq, Repr

/-- The number and the wording of a file fault. -/
def FileFault.text : FileFault → String
  | .missing => "[Errno 2] No such file or directory"
  | .occupied => "[Errno 17] File exists"
  | .notDirectory => "[Errno 20] Not a directory"
  | .isDirectory => "[Errno 21] Is a directory"
  | .nameTooLong => "[Errno 36] File name too long"

/-- What went wrong. A shape is that of a loose value that did not fit. -/
inductive Failure where
  /-- No database was asked for. -/
  | noDatabase
  | colonInHost
  | emptyDelimiter
  | severalDelimiters
  | surrogateDelimiter
  | unknownDatabase (name : String)
  | unknownTable (name : String)
  /-- A table whose kind cannot be dumped. -/
  | unsupportedKind (table kind : String)
  /-- A kind that is none, as messages show it. -/
  | notAKind (shown : String)
  | connectTimeout (host port : String)
  /-- The time to connect ends before it begins. -/
  | negativeTimeout
  /-- The time to connect is no number. -/
  | timeoutShape (shape : Shape)
  /-- The server refused a call. -/
  | server (message : String)
  /-- The operating system refused a call. -/
  | system (message : String)
  /-- A value was refused on the way to the server. -/
  | invalid (message : String)
  | file (fault : FileFault) (path : String)
  | nullInPath
  | numeral (fault : Text.NumeralFault)
  | infiniteNumber
  | undefinedNumber
  /-- A whole number is beyond all numbers in binary form. -/
  | hugeNumber
  /-- A time of the clock is no number. -/
  | clockShape (shape : Shape)
  | notBoolean (text : String)
  /-- A row of the catalog has fewer cells than the two that are read. -/
  | tooFewCells (count : Nat)
  | tooManyCells
  /-- An answer has no row at all. -/
  | missingRow
  /-- A row has no cell where one is read. -/
  | missingCell
  /-- The flags of a column are no whole number. -/
  | flagsShape (shape : Shape)
  /-- A name that must be looked up is a list or fields. -/
  | keyShape (shape : Shape)
  | notIterable (shape : Shape)
  /-- What should be searched for a name cannot be searched. -/
  | notSearchable (shape : Shape)
  /-- What a text should be searched for is no text. -/
  | soughtShape (shape : Shape)
  /-- What should be listed among texts is no text. -/
  | listedShape (position : Nat) (shape : Shape)
  | noLength (shape : Shape)
  | notComparable (left right : Shape)
  | notNumeric (shape : Shape)
  /-- Settings that should be merged are no fields. -/
  | notMapping (shape : Shape)
  /-- An item among the characters to be escaped is no text. -/
  | escapeItemShape (shape : Shape)
  /-- The characters to be escaped are given, but there are none. -/
  | emptyCharacterSet
  /-- A configuration, or a section of it, is no fields. -/
  | sectionShape (shape : Shape)
  /-- The name of a table is no text. -/
  | nameShape (shape : Shape)
  /-- A creation statement is no text. -/
  | creationShape (shape : Shape)
  /-- The settings of the log cannot be changed. -/
  | logShape (shape : Shape)
  /-- The level of the log is no text. -/
  | levelShape (shape : Shape)
  | unknownLevel (word : String)
  /-- The level of the log is the layout of its records. -/
  | layoutAsLevel (layout : String)
  /-- The level of the log is the table of the styles of layouts. -/
  | stylesAsLevel
  /-- The path of the log file is no text. -/
  | pathShape (shape : Shape)
  | delimiterShape (shape : Shape)
  | delimiterLength
  deriving DecidableEq, Repr

/-- A text between single quotes, as it stands. -/
def betweenQuotes (s : String) : String := "'" ++ s ++ "'"

/-- How messages speak of a value of a shape. -/
def objectOf (shape : Shape) : String := betweenQuotes shape.word ++ " object"

/-- The wording of a number that cannot be read. -/
def Text.NumeralFault.message : Text.NumeralFault → String
  | .malformed text =>
    "invalid literal for int() with base 10: " ++ Text.truncate 200 (Text.quoted text)
  | .tooLong digits =>
    "Exceeds the limit (" ++ toString Text.maxDigits
      ++ " digits) for integer string conversion: value has " ++ toString digits
      ++ " digits; use sys.set_int_max_str_digits() to increase the limit"

/-- The wording of a failure. -/
def Failure.message : Failure → String
  | .noDatabase => "database must be specified"
  | .colonInHost => "host can not have character ':'"
  | .emptyDelimiter => "csv field delimiter must not be empty"
  | .severalDelimiters =>
    "there are multiple utf8 characters for csv field delimiter. "
      ++ "only one utf8 character is allowed"
  | .surrogateDelimiter => "csv field delimiter is invalid utf8 character"
  | .unknownDatabase name => "database " ++ name ++ " not exists"
  | .unknownTable name => "table " ++ name ++ " not exists"
  | .unsupportedKind table kind => "table: " ++ table ++ " table type: " ++ kind
  | .notAKind shown => shown ++ " is not a valid TableKind"
  | .connectTimeout host port => "connect to " ++ host ++ ":" ++ port ++ " timeout"
  | .negativeTimeout => betweenQuotes "timeout" ++ " must be a non-negative number"
  | .timeoutShape shape => objectOf shape ++ " is no time to connect"
  | .server message => if message.isEmpty then "Unknown error" else message
  | .system message => message
  | .invalid message => message
  | .file fault path => fault.text ++ ": " ++ Text.quoted path
  | .nullInPath => "embedded null byte"
  | .numeral fault => fault.message
  | .infiniteNumber => "cannot convert float infinity to integer"
  | .undefinedNumber => "cannot convert float NaN to integer"
  | .hugeNumber => "int too large to convert to float"
  | .clockShape shape => objectOf shape ++ " is no time of a clock"
  | .notBoolean text => "invalid boolean value: " ++ betweenQuotes text
  | .tooFewCells count =>
    "not enough values to unpack (expected 2, got " ++ toString count ++ ")"
  | .tooManyCells => "too many values to unpack (expected 2)"
  | .missingRow => "list index out of range"
  | .missingCell => "tuple index out of range"
  | .flagsShape shape =>
    "unsupported operand type(s) for &: " ++ betweenQuotes shape.word ++ " and "
      ++ betweenQuotes "int"
  | .keyShape shape => "unhashable type: " ++ betweenQuotes shape.word
  | .notIterable shape => objectOf shape ++ " is not iterable"
  | .notSearchable shape => "argument of type " ++ betweenQuotes shape.word ++ " is not iterable"
  | .soughtShape shape =>
    betweenQuotes "in <string>" ++ " requires string as left operand, not " ++ shape.word
  | .listedShape position shape =>
    "sequence item " ++ toString position ++ ": expected str instance, " ++ shape.word ++ " found"
  | .noLength shape => "object of type " ++ betweenQuotes shape.word ++ " has no len()"
  | .notComparable left right =>
    "'<=' not supported between instances of " ++ betweenQuotes left.word ++ " and "
      ++ betweenQuotes right.word
  | .notNumeric shape =>
    "int() argument must be a string, a bytes-like object or a real number, not "
      ++ betweenQuotes shape.word
  | .notMapping shape => objectOf shape ++ " is not a mapping"
  | .escapeItemShape shape =>
    "decoding to str: need a bytes-like object, " ++ shape.word ++ " found"
  | .emptyCharacterSet => "unterminated character set at position 0"
  | .sectionShape shape => objectOf shape ++ " has no attribute 'get'"
  | .nameShape shape => objectOf shape ++ " has no attribute 'startswith'"
  | .creationShape shape => objectOf shape ++ " has no attribute 'endswith'"
  | .logShape shape => objectOf shape ++ " holds no settings of a log"
  | .levelShape shape => objectOf shape ++ " is no level of a log"
  | .unknownLevel word => "unknown level of a log: " ++ Text.quoted word
  | .layoutAsLevel layout => "Unknown level: " ++ Text.quoted layout
  | .stylesAsLevel => "the styles of layouts are no level of a log"
  | .pathShape shape => objectOf shape ++ " is no path of a log file"
  | .delimiterShape shape => objectOf shape ++ " is no delimiter"
  | .delimiterLength => "a delimiter is a single character"

end DatabaseDump
