import DatabaseDump.Decimal.Binary
import DatabaseDump.Failure
import DatabaseDump.Row
import DatabaseDump.Value.Items

/-!
# Servers

A server is what it answers: to the attempt to connect, and to every query with its
parameters. The same question always gets the same answer. Each call that is made on
it is a value too, so that one can say which calls were made and in what order.
-/

namespace DatabaseDump

/-- Who connects to which server, and how long that may take, all as it is given. -/
structure Login where
  host : Value
  port : Value
  user : Value
  password : Value
  /-- The database to begin with; what is empty is none. -/
  database : Value := .null
  /-- The time to connect in seconds. -/
  timeout : Value := .int 10
  deriving DecidableEq, Repr

namespace Login

/-- The database that is asked for, or nothing. -/
def requestedDatabase (login : Login) : Value :=
  if login.database.isGiven then login.database else .null

/-- The least whole number of seconds that covers the time to connect. -/
def ceiling (login : Login) : Except Failure Int :=
  match login.timeout with
  | .bool b => .ok (if b then 1 else 0)
  | .int n => .ok n
  | .float x =>
    if x.isNaN then .error .undefinedNumber
    else if x.isInf then .error .infiniteNumber
    else .ok (Decimal.ceiling x)
  | other => .error (.timeoutShape other.shape)

/-- The time to connect in whole seconds, at least one. -/
def seconds (login : Login) : Except Failure Int := max 1 <$> login.ceiling

/-- Whether the time to connect ends before it begins. -/
def isLate (login : Login) : Bool :=
  match login.timeout with
  | .int n => n < 0
  | .float x => x < 0
  | _ => false

end Login

/-- One call on a server. -/
inductive Call where
  /-- Connects within some whole seconds. -/
  | connect (login : Login) (seconds : Int)
  | ping
  /-- Opens a cursor for loose values, or one for the raw bytes of a stream of rows. -/
  | openCursor (raw : Bool)
  /-- Executes a query with the items of its parameters, if there are any. -/
  | execute (query : String) (parameters : Option (List Value))
  | closeCursor
  | askConnected
  | close
  deriving DecidableEq, Repr

/-- The parameters of a query one by one. -/
def parameterList : Value → Except Failure (Option (List Value))
  | .null => .ok none
  | parameters => some <$> parameters.items

/-- What a server answers to a query. -/
structure Answer where
  /-- What describes the columns of the result, each in some cells. -/
  headings : List (List Value) := []
  /-- The rows as loose values, unless they cannot be read. -/
  rows : Except Failure (List (List Value)) := .ok []
  /-- The rows as raw bytes, which may break off. -/
  stream : RowSource Failure := ⟨[], none⟩

/-- A server. -/
structure Server where
  connectFailure : Option Failure := none
  pingFailure : Option Failure := none
  /-- Connecting takes longer than anyone waits. -/
  hangs : Bool := false
  /-- What it says at the end to the question whether the connection still stands. -/
  staysConnected : Bool := true
  /-- What it answers to a query with parameters as they are given; nothing is none at all. -/
  answer : (query : String) → (parameters : Value) → Except Failure Answer

end DatabaseDump
