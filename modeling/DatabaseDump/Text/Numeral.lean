import DatabaseDump.Text.Blank
import DatabaseDump.Text.DecimalDigit
import DatabaseDump.Text.Search

/-!
# Whole numbers in texts

Reading a whole number: blanks around it, an optional sign, then digits of any
script, with single underscores allowed between digits.
-/

namespace DatabaseDump.Text

/-- Why a text is no whole number. -/
inductive NumeralFault where
  | malformed (text : String)
  | tooLong (digits : Nat)
  deriving DecidableEq, Repr

/-- The most digits a number may be written with. -/
def maxDigits : Nat := 4300

/-- The blanks around a number; the information separators do not count here. -/
def isNumeralBlank (c : Char) : Bool := isBlank c && !(0x1C ≤ c.toNat && c.toNat ≤ 0x1F)

/-- A character that the digits of a number may go on with. -/
def isNumeralChar (c : Char) : Bool := isDecimalDigit c || c == '_'

/-- The number that digits stand for. -/
def digitsValue (digits : List Char) : Nat :=
  digits.foldl (fun n c => 10 * n + (digitValue? c).getD 0) 0

/-- Splits a sign off a number; without one the number is positive. -/
def splitSign : List Char → Bool × List Char
  | '-' :: rest => (true, rest)
  | '+' :: rest => (false, rest)
  | rest => (false, rest)

/-- Reads a whole number. -/
def readInteger (s : String) : Except NumeralFault Int :=
  let body := (s.toList.dropWhile isNumeralBlank).reverse.dropWhile isNumeralBlank |>.reverse
  let (negative, unsigned) := splitSign body
  let run := unsigned.takeWhile isNumeralChar
  let digits := run.filter isDecimalDigit
  -- An underscore at an end or beside another one leaves an empty piece.
  if (splitOnChar '_' run).any List.isEmpty then .error (.malformed s)
  else if maxDigits < digits.length then .error (.tooLong digits.length)
  else if run.length < unsigned.length then .error (.malformed s)
  else
    let n : Int := digitsValue digits
    .ok (if negative then -n else n)

end DatabaseDump.Text
