import DatabaseDump.Dump.Inserts

/-!
# Filling statements in buffers

Insert statements as they come about in the two buffers that a table borrows: one for the
statement that is being filled, one for the tuple that was read last. A statement is flushed
when that tuple does not fit behind it any more, and the tuple opens the next one.

The buffers are given back with whatever they hold: a statement that has just been opened when
all rows were written, and one that is filled in part, maybe with a tuple that waits for its
turn, when the rows break off.

Rows are counted as they are read and statements as they are flushed.
-/

namespace DatabaseDump

/-- Whether a statement of some size is larger than the budget, if that can be told. -/
def Sql.Budget.isExceeded (size : Nat) : Sql.Budget → Except Failure Bool
  | .bytes count => .ok (decide (count < size))
  | .unlimited => .ok false
  | .incomparable shape => .error (.notComparable .int shape)

namespace Dump

/-- The buffers of a table, the statements that were flushed, and the counters. -/
structure Filling where
  batch : Buffer
  pending : Buffer
  /-- Where the tuples of the statement begin. -/
  start : Nat := 0
  chunks : List Bytes := []
  /-- How many rows were read. -/
  rows : Nat := 0
  /-- How many statements were flushed. -/
  statements : Nat := 0

namespace Filling

/-- Opens a statement with the pending tuple, if there is one. -/
def opened (table : String) (filling : Filling) : Filling :=
  let batch := filling.batch.append (Sql.Insert.opening table)
  { filling with
    batch := batch.append filling.pending.content
    pending := filling.pending.cleared
    start := batch.content.length }

/-- Closes the statement and flushes it. -/
def flushed (filling : Filling) : Filling :=
  { filling with
    batch := filling.batch.cleared
    chunks := filling.chunks ++ [filling.batch.content ++ Sql.Insert.closing]
    statements := filling.statements + 1 }

/-- Reads a tuple. -/
def read (tuple : Bytes) (filling : Filling) : Filling :=
  { filling with
    pending := filling.pending.append tuple
    rows := filling.rows + 1 }

/-- Whether the statement has a tuple. -/
def isFilled (filling : Filling) : Bool := filling.start < filling.batch.content.length

/-- What separates the pending tuple from the one before it. -/
def separator (filling : Filling) : Bytes := if filling.isFilled then [0x2C] else []

/-- Moves the pending tuple into the statement. -/
def joined (filling : Filling) : Filling :=
  { filling with
    batch := (filling.batch.append filling.separator).append filling.pending.content
    pending := filling.pending.cleared }

/-- The size of the statement with the pending tuple. -/
def size (filling : Filling) : Nat :=
  filling.batch.content.length + filling.separator.length + filling.pending.content.length
    + Sql.Insert.closing.length

/-- Whether the pending tuple does not fit any more. The first tuple always fits. -/
def overflows (budget : Sql.Budget) (filling : Filling) : Except Failure Bool :=
  if filling.isFilled then budget.isExceeded filling.size else .ok false

/-- Takes two buffers of a pool and opens the first statement. -/
def borrow (table : String) (pool : Pool) : Filling × Pool :=
  let (batch, pool) := pool.take
  let (pending, pool) := pool.take
  (opened table { batch, pending }, pool)

/-- Reads tuples one after the other. -/
def fill (budget : Sql.Budget) (table : String) : List Bytes → Filling → Option Failure × Filling
  | [], filling => (none, filling)
  | tuple :: rest, filling =>
    let filling := filling.read tuple
    match filling.overflows budget with
    | .error failure => (some failure, filling)
    | .ok true => fill budget table rest (filling.flushed.opened table)
    | .ok false => fill budget table rest filling.joined

/-- Flushes what is left when there are no more tuples. -/
def ended (table : String) (filling : Filling) : Filling :=
  if filling.isFilled then filling.flushed.opened table else filling

/-- Gives the buffers back to the pool that they were taken from. -/
def giveBack (filling : Filling) (pool : Pool) : Pool :=
  { pool with loans := [filling.batch, filling.pending] :: pool.loans }.giveBack

/-- What comes of the rows of a table, with the counts when it ended. -/
structure Result where
  failure : Option Failure
  chunks : List Bytes
  rows : Nat
  statements : Nat
  pool : Pool

/-- Writes the tuples of a table with two buffers of a pool. The rows may break off at their end. -/
def write (budget : Sql.Budget) (table : String) (tuples : List Bytes) (last : Option Failure)
    (pool : Pool) : Result :=
  let (filling, pool) := borrow table pool
  let (failure, filling) := fill budget table tuples filling
  match failure <|> last with
  | some failure =>
    { failure := some failure
      chunks := filling.chunks
      rows := filling.rows
      statements := filling.statements
      pool := filling.giveBack pool }
  | none =>
    let filling := filling.ended table
    { failure := none
      chunks := filling.chunks ++ [Sql.Statement.endOfRows.bytes]
      rows := filling.rows
      statements := filling.statements
      pool := filling.giveBack pool }

/-- Writes the rows of a table with two buffers of a pool. -/
def writeRows (budget : Sql.Budget) (table : Value) (columns : List Column)
    (source : RowSource Failure) (pool : Pool) : Result :=
  write budget table.toText (source.rows.map (Sql.tuple (columns.map Column.tag))) source.failure
    pool

end Filling

end Dump

end DatabaseDump
