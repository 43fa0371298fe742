import DatabaseDump.Csv.Field
import DatabaseDump.Value.Items

/-!
# Escaping in fields

On request a backslash is put before certain characters of text fields. The sentinel
stays as it is, and so does every field when there is no character to escape.
-/

namespace DatabaseDump.Csv

open Text (Symbol)

/-- The characters that are escaped unless others are asked for. -/
def defaultEscapeChars : String := "\x00\x08\n\r\t\x1a"

/-- Which characters are escaped, and whether any are. -/
structure Escaper where
  enabled : Bool := false
  chars : List Char := defaultEscapeChars.toList
  deriving DecidableEq, Repr

/-- The texts of a list, up to the first item that is none. -/
def textsOf : List Value → Except Failure (List String)
  | [] => .ok []
  | .text s :: rest => (s :: ·) <$> textsOf rest
  | item :: _ => .error (.escapeItemShape item.shape)

/--
The characters that a setting names: those of a text, of the texts of a list, or of
the names of fields. Only a setting that is empty itself may name none.
-/
def escapeCharsOf (setting : Value) : Except Failure (List Char) := do
  if !setting.isGiven then return []
  let chars := (← textsOf (← setting.items)).flatMap String.toList
  if chars.isEmpty then throw .emptyCharacterSet
  return chars

namespace Escaper

/-- The escaper with the characters that a setting names. -/
def ofSetting (enabled : Bool) (setting : Value) : Except Failure Escaper := do
  return ⟨enabled, ← escapeCharsOf setting⟩

/-- One symbol, with a backslash before it when it is among the characters. -/
def escapedSymbol (chars : List Char) : Symbol → List Symbol
  | .char c => if chars.contains c then [.char '\\', .char c] else [.char c]
  | .stray b => [.stray b]

/-- Escapes a field, whether escaping is enabled or not. -/
def escape (escaper : Escaper) (field : List Symbol) : List Symbol :=
  if field = sentinel then field else field.flatMap (escapedSymbol escaper.chars)

/-- The field of a cell, escaped when escaping is enabled and the column holds texts. -/
def encode (escaper : Escaper) (tag : TypeTag) (cell : Cell) : List Symbol :=
  if escaper.enabled && tag.isString then escaper.escape (field cell) else field cell

/-- The fields of a row. -/
def encodeRow (escaper : Escaper) (tags : List TypeTag) (row : Row) : List (List Symbol) :=
  List.zipWith escaper.encode tags row

end Escaper

end DatabaseDump.Csv
