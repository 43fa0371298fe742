import DatabaseDump.Server

/-!
# Scripted servers

A server that answers from a list of entries. The first entry that fits a query counts,
and it can be used again; a query that no entry fits is refused.
-/

namespace DatabaseDump.Server

/-- One entry of a script. -/
structure Entry where
  query : String
  /-- The parameters that the query must come with, where nothing asks for none. -/
  parameters : Option Value := none
  reply : Except Failure Answer

/-- How parameters are compared: their items as a list, and empty ones as they are given. -/
def compared (parameters : Value) : Value :=
  if parameters.isGiven then
    match parameters.items with
    | .ok items => .list items
    | .error _ => parameters
  else parameters

/-- Whether an entry fits a query with its parameters; without any of its own it fits all. -/
def Entry.fits (entry : Entry) (query : String) (parameters : Value) : Bool :=
  entry.query == query && entry.parameters.all (·.equals (compared parameters))

/-- What a script answers. -/
def scripted (script : List Entry) (query : String) (parameters : Value) :
    Except Failure Answer :=
  match script.find? fun entry => entry.fits query parameters with
  | some entry => entry.reply
  | none => .error (.server ("unexpected query: " ++ query))

end DatabaseDump.Server
