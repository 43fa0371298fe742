import DatabaseDump.Failure
import DatabaseDump.Pool

/-!
# Blocks that buffers are lent to

Buffers are lent for the time of a block. They are given back when the block is left, whether
it came to its end or failed, and only then a failure goes on to what is around the block. It
leaves every block on its way, up to the first one around which it is caught.

What a block does to a pool are steps, one after the other: `failure` says how the block is left,
and `steps` are the steps up to there.
-/

namespace DatabaseDump.Pool

/-- What a block does, one thing after the other. -/
inductive Block where
  | finish
  | fail (failure : Failure)
  /-- Writes to the buffers of the innermost loan. -/
  | write (bytes : Nat → Bytes) (rest : Block)
  /-- Lends buffers to an inner block. Its failure is caught around it, or not. -/
  | lend (count : Nat) (inner : Block) (caught : Bool) (rest : Block)

namespace Block

/-- Whether a failure goes on behind the block in which it came up. -/
def goesOn (caught : Bool) (failure : Option Failure) : Bool := failure.isSome && !caught

/-- Runs a block: its failure, if it fails, and the pool after it. -/
def run : Block → Pool → Option Failure × Pool
  | finish, pool => (none, pool)
  | fail failure, pool => (some failure, pool)
  | write bytes rest, pool => rest.run (pool.write bytes)
  | lend count inner caught rest, pool =>
    let (failure, pool) := inner.run (pool.lend count)
    let pool := pool.giveBack
    if goesOn caught failure then (failure, pool) else rest.run pool

/-- The failure that a block ends with, if it fails. -/
def failure : Block → Option Failure
  | finish => none
  | fail failure => some failure
  | write _ rest => rest.failure
  | lend _ inner caught rest =>
    if goesOn caught inner.failure then inner.failure else rest.failure

/-- The steps of a block. A loan is given back before it shows whether a failure goes on. -/
def steps : Block → List Step
  | finish => []
  | fail _ => []
  | write bytes rest => .write bytes :: rest.steps
  | lend count inner caught rest =>
    .lend count :: inner.steps
      ++ .giveBack :: if goesOn caught inner.failure then [] else rest.steps

end Block

end DatabaseDump.Pool
