import DatabaseDump.Session
import DatabaseDump.Value.Display

/-!
# Connections

Connecting to a server and asking it. A plain query reads the whole answer as loose
values and closes its cursor whatever happens. A stream opens a raw cursor, and it is
for the reader of the rows to close it; when the query itself is refused, or a column
cannot be made sense of, the cursor stays open.
-/

namespace DatabaseDump.Connection

open Work

/-- Logs that connecting failed, when it was the server that refused. -/
def noteRefusal : Failure → Work Unit
  | .server message =>
    note .error ("Failed to connect to database: " ++ (Failure.server message).message)
  | _ => pure ()

/-- Fails with a failure if there is one. -/
def checkReached : Option Failure → Work Unit
  | none => pure ()
  | some failure => do
    noteRefusal failure
    throw failure

/-- The whole seconds that a login gives the server to connect. -/
def patience (login : Login) : Except Failure Int :=
  match login.seconds with
  | .ok seconds => .ok seconds
  | .error failure => .error (if login.isLate then .negativeTimeout else failure)

/-- Calls the server for a connection that nobody waits for. -/
def reachInVain (server : Server) : Work Unit := do
  if !server.hangs && server.connectFailure.isNone then call .ping
  throw .negativeTimeout

/-- Calls the server for a connection. -/
def reach (server : Server) (login : Login) : Work Unit := do
  if server.hangs then throw (.connectTimeout login.host.toText login.port.toText)
  checkReached server.connectFailure
  call .ping
  checkReached server.pingFailure

/-- What a connection is made to, as the log shows it. -/
def target (login : Login) : String :=
  login.host.toText ++ ":" ++ login.port.toText ++ "/"
    ++ if login.database.isGiven then login.database.toText else "N/A"

/-- Connects to a server. -/
def connect (server : Server) (login : Login) : Work Unit := do
  call (.connect login (← ofResult (patience login)))
  if login.isLate then reachInVain server else reach server login
  note .info ("Connected to " ++ target login)

/-- Ends a connection, unless the server has ended it. -/
def disconnect (server : Server) : Work Unit := do
  call .askConnected
  if server.staysConnected then
    call .close
    note .debug "Database connection closed"

/-- Does work while connected. -/
def during {α : Type} (server : Server) (login : Login) (work : Work α) : Work α := do
  connect server login
  work.andAlways (disconnect server)

/-- Executes a query on an open cursor. -/
def execute (server : Server) (text : String) (parameters : Value) : Work Answer := do
  call (.execute text (← ofResult (parameterList parameters)))
  ofResult (server.answer text parameters)

/-- Executes a query on an open cursor and reads all its rows. -/
def fetch (server : Server) (text : String) (parameters : Value) :
    Work (List (List Value)) := do
  let answer ← execute server text parameters
  ofResult answer.rows

/-- The rows that answer a query. -/
def query (server : Server) (text : String) (parameters : Value := .null) :
    Work (List (List Value)) := do
  call (.openCursor false)
  (fetch server text parameters).andAlways (call .closeCursor)

/-- The columns and the raw rows that answer a query; the cursor is left open. -/
def stream (server : Server) (text : String) : Work (List Column × RowSource Failure) := do
  call (.openCursor true)
  let answer ← execute server text .null
  let columns ← ofResult (answer.headings.mapM Column.ofCells)
  return (columns, answer.stream)

end DatabaseDump.Connection
