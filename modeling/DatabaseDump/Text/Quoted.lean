import DatabaseDump.Text.Hex
import DatabaseDump.Text.Printable

/-!
# Quoted texts

How a text is shown inside a message: between single quotes, or between double
quotes when it holds a single quote and no double one. What would be ambiguous or
invisible is written with a backslash.
-/

namespace DatabaseDump.Text

/-- The quote a text is put between. -/
def quoteFor (s : List Char) : Char :=
  if s.contains '\'' && !s.contains '"' then '"' else '\''

/-- One character of a quoted text. -/
def quotedChar (quote c : Char) : List Char :=
  if c = quote ∨ c = '\\' then ['\\', c]
  else if c = '\n' then ['\\', 'n']
  else if c = '\r' then ['\\', 'r']
  else if c = '\t' then ['\\', 't']
  else if isPrintable c then [c]
  else if c.toNat < 0x100 then '\\' :: 'x' :: hexDigits .lower 2 c.toNat
  else if c.toNat < 0x10000 then '\\' :: 'u' :: hexDigits .lower 4 c.toNat
  else '\\' :: 'U' :: hexDigits .lower 8 c.toNat

/-- The characters of a quoted text, its quotes included. -/
def quotedChars (s : List Char) : List Char :=
  let quote := quoteFor s
  quote :: s.flatMap (quotedChar quote) ++ [quote]

/-- A text as messages show it. -/
def quoted (s : String) : String := String.ofList (quotedChars s.toList)

/-- At most the first `limit` characters of a text. -/
def truncate (limit : Nat) (s : String) : String := String.ofList (s.toList.take limit)

end DatabaseDump.Text
