import DatabaseDump.Csv.Escape

/-!
# Records

A record is a line of fields with a delimiter between neighbours. A field that holds
the delimiter, a double quote or a newline is put between double quotes, and double
quotes inside it are doubled. A record of one empty field is a pair of quotes, so
that it differs from a record without fields.

These are the rules of the record writer as it was released before 3.11.9: a carriage
return stands in a field like any other character. From that release on it forces
quotes as well.
-/

namespace DatabaseDump.Csv

open Text (Symbol)

/-- Whether a symbol forces its field between quotes. -/
def forcesQuotes (delimiter : Char) (s : Symbol) : Bool :=
  s == .char delimiter || s == .char '"' || s == .char '\n'

/-- One symbol between quotes. -/
def quotedSymbol (s : Symbol) : List Symbol := if s = .char '"' then [s, s] else [s]

/-- A field between quotes. -/
def quotedField (field : List Symbol) : List Symbol :=
  .char '"' :: field.flatMap quotedSymbol ++ [.char '"']

/-- A field as it stands in a record. -/
def writtenField (delimiter : Char) (field : List Symbol) : List Symbol :=
  if field.any (forcesQuotes delimiter) then quotedField field else field

/-- A record with its newline. -/
def record (delimiter : Char) (fields : List (List Symbol)) : List Symbol :=
  let body := if fields = [[]] then quotedField []
    else List.intercalate [.char delimiter] (fields.map (writtenField delimiter))
  body ++ [.char '\n']

/-- The content of a side file. -/
def content (delimiter : Char) (records : List (List (List Symbol))) : List Symbol :=
  records.flatMap (record delimiter)

/-- The bytes of the side file of a list of rows. -/
def fileBytes (escaper : Escaper) (delimiter : Char) (tags : List TypeTag) (rows : List Row) :
    Bytes :=
  Text.bytesOf (content delimiter (rows.map (escaper.encodeRow tags)))

end DatabaseDump.Csv
