/-!
# Hexadecimal digits

Numbers with a fixed count of hexadecimal digits, in either case of letters.
-/

namespace DatabaseDump.Text

/-- The two cases of the letters among the hexadecimal digits. -/
inductive HexCase where
  | lower
  | upper
  deriving DecidableEq, Repr

/-- The digit of a value below sixteen. -/
def hexDigit (letters : HexCase) (d : Nat) : Char :=
  if d < 10 then Char.ofNat (48 + d)
  else match letters with
    | .lower => Char.ofNat (87 + d)
    | .upper => Char.ofNat (55 + d)

/-- The last `width` hexadecimal digits of a number, most significant first. -/
def hexDigits (letters : HexCase) : (width : Nat) → Nat → List Char
  | 0, _ => []
  | width + 1, n => hexDigits letters width (n / 16) ++ [hexDigit letters (n % 16)]

/-- The value of a hexadecimal digit in either case. -/
def hexValue? (c : Char) : Option Nat :=
  if '0' ≤ c ∧ c ≤ '9' then some (c.toNat - 48)
  else if 'a' ≤ c ∧ c ≤ 'f' then some (c.toNat - 87)
  else if 'A' ≤ c ∧ c ≤ 'F' then some (c.toNat - 55)
  else none

example : hexDigits .lower 4 0x2028 = ['2', '0', '2', '8'] := by decide

end DatabaseDump.Text
