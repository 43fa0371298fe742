import DatabaseDump.Row
import DatabaseDump.Text.Hex

/-!
# Literals

The literal of a cell depends on the tag of its column. Numbers and vectors stand as
they came, bytes are written in hexadecimal, bits as a binary text, and all else as a
quoted text in which quotes and backslashes are escaped.
-/

namespace DatabaseDump.Sql

/-- The single quote. -/
def quote : UInt8 := 0x27

/-- The backslash. -/
def backslash : UInt8 := 0x5C

/-- One byte inside a quoted text. -/
def escapedByte (b : UInt8) : Bytes :=
  if b = quote ∨ b = backslash then [backslash, b] else [b]

/-- A text between single quotes, which only its closing quote can end. -/
def quotedText (value : Bytes) : Bytes := quote :: value.flatMap escapedByte ++ [quote]

/-- Whether a byte is a digit from 0 to 9. -/
def isDigitByte (b : UInt8) : Bool := 0x30 ≤ b && b ≤ 0x39

/-- Whether a value opens like a number: with a digit, or with a minus and a digit. -/
def opensAsNumber : Bytes → Bool
  | [] => false
  | b :: rest => isDigitByte b || (b == 0x2D && rest.head?.any isDigitByte)

/-- A number as it came; infinities and what is no number go between quotes. -/
def floatLiteral (value : Bytes) : Bytes :=
  if opensAsNumber value then value else quote :: value ++ [quote]

/-- Two hexadecimal digits for each byte. -/
def hexBytes (value : Bytes) : Bytes :=
  value.flatMap fun b => (Text.hexDigits .upper 2 b.toNat).map fun c => c.toNat.toUInt8

/-- Bytes in hexadecimal; no bytes at all are an empty text. -/
def blobLiteral (value : Bytes) : Bytes :=
  if value.isEmpty then [quote, quote] else Text.utf8 "0x" ++ hexBytes value

/-- One byte inside a binary text: a zero byte is written as a backslash and a zero. -/
def bitByte (b : UInt8) : Bytes := if b = 0 then [backslash, 0x30] else [b]

/-- Bits as a binary text. -/
def bitLiteral (value : Bytes) : Bytes :=
  Text.utf8 "_binary '" ++ value.flatMap bitByte ++ [quote]

/--
A truth value as it came and all else quoted. The server may report a truth value
under the type of a text, or under no type.
-/
def truthOrText (value : Bytes) : Bytes :=
  if value = Text.utf8 "true" ∨ value = Text.utf8 "false" then value else quotedText value

/-- The literal of bytes in a column with a tag. -/
def valueLiteral (tag : TypeTag) (value : Bytes) : Bytes :=
  match tag with
  | .integer | .double | .boolean | .vector => value
  | .float => floatLiteral value
  | .blob => blobLiteral value
  | .bit => bitLiteral value
  | .unknown | .varchar => truthOrText value
  | .json | .text | .char | .other => quotedText value

/-- The literal of a cell. -/
def literal (tag : TypeTag) : Cell → Bytes
  | none => Text.utf8 "NULL"
  | some value => valueLiteral tag value

/-- Parts with a comma between neighbours. -/
def commaSeparated (parts : List Bytes) : Bytes := List.intercalate [0x2C] parts

/-- A row as a tuple of literals. -/
def tuple (tags : List TypeTag) (row : Row) : Bytes :=
  0x28 :: commaSeparated (List.zipWith literal tags row) ++ [0x29]

end DatabaseDump.Sql
