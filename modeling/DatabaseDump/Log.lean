/-!
# Log records

What a dump says about its own progress. A record has a level and a message; a log
that is read by people leaves out the records below its threshold.
-/

namespace DatabaseDump.Log

/-- How much a record matters. -/
inductive Level where
  | debug
  | info
  | warning
  | error
  | critical
  deriving DecidableEq, Repr

/-- The name of a level in a written record. -/
def Level.name : Level → String
  | .debug => "DEBUG"
  | .info => "INFO"
  | .warning => "WARNING"
  | .error => "ERROR"
  | .critical => "CRITICAL"

/-- Where a level stands between the others. -/
def Level.rank : Level → Nat
  | .debug => 10
  | .info => 20
  | .warning => 30
  | .error => 40
  | .critical => 50

/-- One message of the log. -/
structure Record where
  level : Level
  message : String
  deriving DecidableEq, Repr

/-- The words that set a threshold, each with the lowest rank that it lets through. -/
def thresholds : List (String × Nat) :=
  [("CRITICAL", 50), ("FATAL", 50), ("ERROR", 40), ("WARNING", 30), ("WARN", 30),
   ("INFO", 20), ("DEBUG", 10), ("NOTSET", 0)]

/-- The threshold that a word in capitals sets. -/
def threshold? (word : String) : Option Nat :=
  (thresholds.find? fun entry => entry.1 == word).map Prod.snd

/-- The records that reach the threshold, in order. -/
def visible (threshold : Nat) (records : List Record) : List Record :=
  records.filter fun record => threshold ≤ record.level.rank

/-- A record as a line that opens with its time stamp. -/
def Record.line (stamp : String) (record : Record) : String :=
  stamp ++ " - " ++ record.level.name ++ " - " ++ record.message ++ "\n"

/-- Records as lines. -/
def lines (stamp : String) (records : List Record) : String :=
  String.join (records.map (Record.line stamp))

end DatabaseDump.Log
