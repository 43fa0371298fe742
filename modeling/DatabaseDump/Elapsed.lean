import DatabaseDump.Decimal.Fixed
import DatabaseDump.Failure

/-!
# Elapsed time

A time below one second is told in milliseconds, a longer one in seconds, both with
three places behind the point. Whole seconds are counted exactly as far as they can
be; only what is written, or meets a time with a fraction, is taken in binary form.
-/

namespace DatabaseDump

/-- A time in seconds. -/
inductive Seconds where
  | whole (n : Int)
  | binary (x : Float)
  deriving DecidableEq, Repr

namespace Seconds

/-- The time that a value stands for. -/
def ofValue : Value → Except Failure Seconds
  | .bool b => .ok (.whole (if b then 1 else 0))
  | .int n => .ok (.whole n)
  | .float x => .ok (.binary x)
  | other => .error (.clockShape other.shape)

/-- A time in binary form, which the largest whole numbers do not have. -/
def toFloat : Seconds → Except Failure Float
  | .whole n =>
    let x := Float.ofInt n
    if x.isInf then .error .hugeNumber else .ok x
  | .binary x => .ok x

/-- The time from a first to a last moment. -/
def between : (first last : Seconds) → Except Failure Seconds
  | .whole m, .whole n => .ok (.whole (n - m))
  | first, last => return .binary ((← last.toFloat) - (← first.toFloat))

/-- Whether a time is below one second. -/
def isShort : Seconds → Bool
  | .whole n => n < 1
  | .binary x => x < 1

/-- A thousand times a time. -/
def thousandfold : Seconds → Seconds
  | .whole n => .whole (n * 1000)
  | .binary x => .binary (x * 1000)

/-- The text of a time. -/
def text (time : Seconds) : Except Failure String := do
  if time.isShort then return Decimal.fixedText 3 (← time.thousandfold.toFloat) ++ "ms"
  else return Decimal.fixedText 3 (← time.toFloat) ++ "s"

end Seconds

end DatabaseDump
