/-!
# Binary numbers of 64 bits, exactly

A finite `Float` is a whole number times a power of two. Everything decimal in this
library is computed from that form with whole numbers.
-/

namespace DatabaseDump.Decimal

/-- The absolute value of a finite number, `mantissa * 2 ^ exponent`. -/
structure Binary where
  mantissa : Nat
  exponent : Int
  /-- The gap to the next smaller number is half the gap to the next larger one. -/
  narrowBelow : Bool
  deriving DecidableEq, Repr

/-- Whether the sign bit is set, so also for a negative zero. -/
def isNegative (x : Float) : Bool := x.toBits >>> 63 != 0

/-- The absolute value of a finite number. -/
def Binary.ofFloat (x : Float) : Binary :=
  let biased := ((x.toBits >>> 52) &&& 0x7FF).toNat
  let fraction := (x.toBits &&& 0xFFFFFFFFFFFFF).toNat
  if biased = 0 then ⟨fraction, -1074, false⟩
  else ⟨0x10000000000000 + fraction, (biased : Int) - 1075, fraction = 0 && 1 < biased⟩

/-- Numerator and denominator of the value times `10 ^ power`. -/
def Binary.timesTen (x : Binary) (power : Int) : Nat × Nat :=
  (x.mantissa * Nat.pow 2 x.exponent.toNat * Nat.pow 10 power.toNat,
   Nat.pow 2 (-x.exponent).toNat * Nat.pow 10 (-power).toNat)

/-- The whole part of a finite number: what is behind the point is dropped. -/
def truncate (x : Float) : Int :=
  let (num, den) := (Binary.ofFloat x).timesTen 0
  let whole : Int := (num / den : Nat)
  if isNegative x then -whole else whole

/-- The least whole number that is not below a finite number. -/
def ceiling (x : Float) : Int :=
  let (num, den) := (Binary.ofFloat x).timesTen 0
  if isNegative x then -((num / den : Nat) : Int) else ((num + den - 1) / den : Nat)

end DatabaseDump.Decimal
