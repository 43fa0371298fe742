import DatabaseDump.Text.Utf8

/-!
# A pool of buffers

Buffers are lent in loans, which are given back in the reverse order in which they
were opened. A buffer that comes back is emptied and kept for the next loan; a new
one is made only when none is free. Every buffer has a number of its own, so that one
can tell two empty buffers apart. For each operation there is an equation that says what
it makes of the whole pool.
-/

namespace DatabaseDump

/-- A buffer with its number and what was written to it. -/
structure Buffer where
  number : Nat
  content : Bytes := []
  deriving DecidableEq, Repr

/-- Appends bytes to a buffer. -/
def Buffer.append (buffer : Buffer) (bytes : Bytes) : Buffer :=
  { buffer with content := buffer.content ++ bytes }

/-- The buffer without its content. -/
def Buffer.cleared (buffer : Buffer) : Buffer := { buffer with content := [] }

/-- Free buffers, the one to be lent next in front, and open loans, the innermost in front. -/
structure Pool where
  free : List Buffer := []
  loans : List (List Buffer) := []
  /-- How many buffers were made so far. -/
  made : Nat := 0
  deriving DecidableEq, Repr

namespace Pool

/-- Takes one buffer, a free one if there is one. -/
def take (pool : Pool) : Buffer × Pool :=
  match pool.free with
  | buffer :: free => (buffer, { pool with free })
  | [] => (⟨pool.made, []⟩, { pool with made := pool.made + 1 })

/-- Takes several buffers, in the order in which they are lent. -/
def takeMany : (count : Nat) → Pool → List Buffer × Pool
  | 0, pool => ([], pool)
  | count + 1, pool =>
    let (buffer, pool) := pool.take
    let (buffers, pool) := takeMany count pool
    (buffer :: buffers, pool)

/-- The buffers that are taken are free ones and, where these are too few, new ones. -/
theorem takeMany_eq (count : Nat) (pool : Pool) :
    takeMany count pool
      = (pool.free.take count
          ++ (List.range' pool.made (count - pool.free.length)).map fun number => ⟨number, []⟩,
        { pool with
          free := pool.free.drop count
          made := pool.made + (count - pool.free.length) }) := by
  induction count generalizing pool with
  | zero => simp [takeMany]
  | succ count ih =>
    cases hfree : pool.free with
    | nil => simp [takeMany, take, hfree, ih, List.range'_succ, Nat.add_assoc, Nat.add_comm 1]
    | cons buffer free => simp [takeMany, take, hfree, ih]

/-- Opens a loan of so many buffers. -/
def lend (count : Nat) (pool : Pool) : Pool :=
  let (buffers, pool) := takeMany count pool
  { pool with loans := buffers :: pool.loans }

theorem lend_eq (count : Nat) (pool : Pool) :
    pool.lend count = {
      free := pool.free.drop count
      loans := (takeMany count pool).1 :: pool.loans
      made := pool.made + (count - pool.free.length) } := by
  rw [lend, takeMany_eq]

/-- Appends to each buffer of the innermost loan what stands for its place in the loan. -/
def write (bytes : Nat → Bytes) (pool : Pool) : Pool :=
  match pool.loans with
  | [] => pool
  | inner :: outer =>
    { pool with loans := inner.mapIdx (fun i buffer => buffer.append (bytes i)) :: outer }

theorem write_eq (bytes : Nat → Bytes) (pool : Pool) :
    pool.write bytes = { pool with
      loans := pool.loans.modifyHead (List.mapIdx fun i buffer => buffer.append (bytes i)) } := by
  obtain ⟨free, loans, made⟩ := pool
  cases loans <;> rfl

/-- Ends the innermost loan: its buffers are emptied and become free, the last one first in line. -/
def giveBack (pool : Pool) : Pool :=
  match pool.loans with
  | [] => pool
  | inner :: outer =>
    { pool with
      free := (inner.map Buffer.cleared).reverse ++ pool.free
      loans := outer }

theorem giveBack_eq (pool : Pool) :
    pool.giveBack = { pool with
      free := ((pool.loans.headD []).map Buffer.cleared).reverse ++ pool.free
      loans := pool.loans.tail } := by
  obtain ⟨free, loans, made⟩ := pool
  cases loans <;> rfl

/-- One thing that can be done with a pool. A block that fails gives back like any other. -/
inductive Step where
  | lend (count : Nat)
  | write (bytes : Nat → Bytes)
  | giveBack

/-- Whether a step can be done: only an open loan is written to or given back. -/
def allows (pool : Pool) : Step → Bool
  | .lend _ => true
  | .write _ | .giveBack => !pool.loans.isEmpty

/-- Does one step. A step that is not allowed changes nothing. -/
def step (pool : Pool) : Step → Pool
  | .lend count => pool.lend count
  | .write bytes => pool.write bytes
  | .giveBack => pool.giveBack

/-- Does steps in order. -/
def steps (pool : Pool) (list : List Step) : Pool := list.foldl step pool

end Pool

end DatabaseDump
