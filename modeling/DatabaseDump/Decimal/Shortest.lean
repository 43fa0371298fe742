import DatabaseDump.Decimal.Binary

/-!
# The shortest decimal

The decimal with the fewest digits that still reads back as the same binary number,
and its text. For a count of digits only the two neighbours of the number on the
decimal grid of that many digits can read back, so they are the ones tried; the
first count with a hit wins, and of two hits the nearer one.
-/

namespace DatabaseDump.Decimal

/-- The decimal `digits * 10 ^ power`. -/
structure Scaled where
  digits : Nat
  power : Int
  deriving DecidableEq, Repr

/-- Compares `a * 10 ^ i` with `n * 2 ^ j`. -/
def compareScaled (a : Nat) (i : Int) (n : Nat) (j : Int) : Ordering :=
  compare (a * Nat.pow 10 i.toNat * Nat.pow 2 (-j).toNat)
    (n * Nat.pow 2 j.toNat * Nat.pow 10 (-i).toNat)

/--
Whether a decimal lies among the reals that are rounded to `x`: those up to halfway
to the neighbours, the ends included when the mantissa is even.
-/
def Binary.readsBack (x : Binary) (d : Scaled) : Bool :=
  let low := if x.narrowBelow then 4 * x.mantissa - 1 else 4 * x.mantissa - 2
  let high := 4 * x.mantissa + 2
  let closed := x.mantissa % 2 == 0
  let atLow := compareScaled d.digits d.power low (x.exponent - 2)
  let atHigh := compareScaled d.digits d.power high (x.exponent - 2)
  (atLow == .gt || (closed && atLow == .eq)) && (atHigh == .lt || (closed && atHigh == .eq))

/-- The least `k` with `x < 10 ^ k`, for a number that is not zero. -/
def Binary.magnitude (x : Binary) : Int :=
  let estimate := ((x.mantissa.log2 : Int) + x.exponent) * 30103 / 100000
  let isAbove := fun k : Int => compareScaled 1 k x.mantissa x.exponent == .gt
  ([estimate - 1, estimate, estimate + 1, estimate + 2].find? isAbove).getD (estimate + 3)

/-- The nearest decimal with `count` digits that reads back, if there is one. -/
def Binary.withDigits? (x : Binary) (count : Nat) : Option Scaled :=
  let power := x.magnitude - count
  let (num, den) := x.timesTen (-power)
  let below : Scaled := ⟨num / den, power⟩
  let above : Scaled := ⟨num / den + 1, power⟩
  match x.readsBack below, x.readsBack above with
  | false, false => none
  | true, false => some below
  | false, true => some above
  | true, true =>
    match compare (2 * (num % den)) den with
    | .lt => some below
    | .gt => some above
    | .eq => some (if below.digits % 2 = 0 then below else above)

/-- Moves the zeros at the end of the digits into the power. -/
def Scaled.strip (d : Scaled) : Scaled :=
  if h : 0 < d.digits ∧ d.digits % 10 = 0 then strip ⟨d.digits / 10, d.power + 1⟩ else d
termination_by d.digits
decreasing_by omega

/-- The shortest decimal that reads back; seventeen digits are enough for that. -/
def Binary.shortest (x : Binary) : Scaled :=
  if x.mantissa = 0 then ⟨0, 0⟩
  else
    match (List.range 17).findSome? fun n => x.withDigits? (n + 1) with
    | some d => d.strip
    | none =>
      if 0 ≤ x.exponent then ⟨x.mantissa * Nat.pow 2 x.exponent.toNat, 0⟩
      else ⟨x.mantissa * Nat.pow 5 (-x.exponent).toNat, x.exponent⟩

/-- How numbers with a fraction are written. -/
structure Layout where
  /-- The exponents of the leading digit that are written without an exponent: from here -/
  plainFrom : Int
  /-- and below this one. -/
  plainBelow : Int
  /-- The least count of digits of a written exponent. -/
  exponentWidth : Nat

/-- From a ten thousandth to below ten to the sixteenth numbers are written in full. -/
def Layout.standard : Layout := ⟨-4, 16, 2⟩

/-- A number with zeros in front up to a width. -/
def padded (width n : Nat) : List Char :=
  let digits := Nat.toDigits 10 n
  List.replicate (width - digits.length) '0' ++ digits

/-- The written form of a decimal; a whole number keeps one zero behind the point. -/
def Scaled.render (style : Layout) (d : Scaled) : List Char :=
  let digits := Nat.toDigits 10 d.digits
  let leading : Int := (digits.length : Int) - 1 + d.power
  if style.plainFrom ≤ leading ∧ leading < style.plainBelow then
    if 0 ≤ d.power then digits ++ List.replicate d.power.toNat '0' ++ ['.', '0']
    else if 0 ≤ leading then
      digits.take (leading.toNat + 1) ++ '.' :: digits.drop (leading.toNat + 1)
    else '0' :: '.' :: (List.replicate (-leading - 1).toNat '0' ++ digits)
  else
    let point := if 1 < digits.length then '.' :: digits.drop 1 else []
    let sign := if leading < 0 then '-' else '+'
    digits.take 1 ++ point ++ 'e' :: sign :: padded style.exponentWidth leading.natAbs

/-- The text of a number: the fewest digits that read back. -/
def text (x : Float) : String :=
  if x.isNaN then "nan"
  else
    let body := if x.isInf then "inf".toList
      else (Binary.ofFloat x).shortest.render Layout.standard
    String.ofList (if isNegative x then '-' :: body else body)

end DatabaseDump.Decimal
