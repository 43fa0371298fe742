import DatabaseDump.Decimal.Shortest

/-!
# A fixed count of decimal places

A number with a set count of digits behind the point. The exact binary value is
rounded, and a value halfway between two candidates goes to the even one.
-/

namespace DatabaseDump.Decimal

/-- The quotient rounded to the nearest whole number, a half to the even neighbour. -/
def roundedQuotient (num den : Nat) : Nat :=
  match compare (2 * (num % den)) den with
  | .lt => num / den
  | .gt => num / den + 1
  | .eq => if num / den % 2 = 0 then num / den else num / den + 1

/-- The digits of `units` with a point before the last `places` of them. -/
def pointed (places units : Nat) : List Char :=
  let digits := padded (places + 1) units
  digits.take (digits.length - places) ++ '.' :: digits.drop (digits.length - places)

/-- The text of a number with `places` digits behind the point. -/
def fixedText (places : Nat) (x : Float) : String :=
  if x.isNaN then "nan"
  else
    let (num, den) := (Binary.ofFloat x).timesTen places
    let body := if x.isInf then "inf".toList else pointed places (roundedQuotient num den)
    String.ofList (if isNegative x then '-' :: body else body)

end DatabaseDump.Decimal
