import DatabaseDump.Failure
import DatabaseDump.Text.Blank
import DatabaseDump.Text.Search
import DatabaseDump.Value.Equality

/-!
# Columns

The type of a column decides how its values are written. The server describes a
column by a name, a type code and flags; the type code has a name, and the name has
a tag. Names are compared without regard to case and to blanks around them.
-/

namespace DatabaseDump

/-- How the values of a column are to be written. -/
inductive TypeTag where
  | integer
  | float
  | double
  | boolean
  | blob
  | bit
  | json
  | text
  | char
  | varchar
  | vector
  | unknown
  | other
  deriving DecidableEq, Repr

namespace TypeTag

/-- The name of a tag. -/
def name : TypeTag → String
  | .integer => "integer"
  | .float => "float"
  | .double => "double"
  | .boolean => "boolean"
  | .blob => "blob"
  | .bit => "bit"
  | .json => "json"
  | .text => "text"
  | .char => "char"
  | .varchar => "varchar"
  | .vector => "vector"
  | .unknown => "unknown"
  | .other => "other"

/-- Whether the values are texts whose special characters may be escaped. -/
def isString : TypeTag → Bool
  | .text | .char | .varchar | .json => true
  | _ => false

/-- The names of the whole number types, each also with `unsigned` before it. -/
def integerNames : List String := ["int", "tinyint", "smallint", "mediumint", "bigint"]

/-- The type names that have a tag of their own. -/
def named : List (String × TypeTag) :=
  integerNames.map (·, .integer) ++ integerNames.map ("unsigned " ++ ·, .integer) ++
  [("float", .float), ("double", .double), ("bool", .boolean), ("boolean", .boolean),
   ("blob", .blob), ("bit", .bit), ("json", .json), ("text", .text), ("char", .char),
   ("varchar", .varchar), ("vecf32", .vector), ("vecf64", .vector), ("", .unknown)]

/-- The tag of a type name. -/
def ofTypeName (typeName : String) : TypeTag :=
  let name := Text.lowerAscii (Text.trim typeName)
  ((named.find? fun entry => entry.1 == name).map Prod.snd).getD .other

end TypeTag

/-- A column of a result, as the server describes it. -/
structure Heading where
  /-- The name, passed on as it comes. -/
  name : Value
  /-- The code of the type, which should be a whole number. -/
  typeCode : Value
  /-- The flags, which should be a whole number, if there are any. -/
  flags : Value := .null
  deriving DecidableEq, Repr

namespace Heading

/-- The heading in the cells of a description: a name, a type code and perhaps flags. -/
def ofCells : List Value → Except Failure Heading
  | name :: typeCode :: rest => .ok ⟨name, typeCode, rest.headD .null⟩
  | _ => .error .missingCell

/-- The names of the whole number types by code. -/
def integerTypes : List (Int × String) :=
  [(1, "TINYINT"), (2, "SMALLINT"), (3, "INT"), (8, "BIGINT"), (9, "MEDIUMINT")]

/-- The codes of the types that hold bytes or long texts. -/
def blobCodes : List Int := [249, 250, 251, 252]

/-- The names of the other types by code. -/
def otherTypes : List (Int × String) :=
  [(0, "DECIMAL"), (4, "FLOAT"), (5, "DOUBLE"), (7, "TIMESTAMP"), (10, "DATE"), (11, "TIME"),
   (12, "DATETIME"), (13, "YEAR"), (14, "DATE"), (15, "VARCHAR"), (16, "BIT"), (245, "JSON"),
   (246, "DECIMAL"), (247, "ENUM"), (248, "SET"), (253, "VARCHAR"), (254, "CHAR"),
   (255, "GEOMETRY")]

/-- Whether a column has a type code. -/
def hasCode (heading : Heading) (code : Int) : Bool := heading.typeCode.equals (.int code)

/-- The name that a list of types has for the type code of a column. -/
def nameIn (types : List (Int × String)) (heading : Heading) : Option String :=
  (types.find? fun type => heading.hasCode type.1).map Prod.snd

/-- Whether a flag is set, where flags below zero have all high ones set. -/
def hasFlag (heading : Heading) (i : Nat) : Except Failure Bool :=
  if !heading.flags.isGiven then .ok false
  else match heading.flags.whole? with
    | some flags => .ok ((flags >>> i) % 2 == 1)
    | none => .error (.flagsShape heading.flags.shape)

/-- Whether the column holds whole numbers without a sign. -/
def isUnsigned (heading : Heading) : Except Failure Bool := heading.hasFlag 5

/-- Whether the column holds bytes rather than a text. -/
def isBinary (heading : Heading) : Except Failure Bool := heading.hasFlag 7

/--
The type name of a column, empty when its type code means nothing. Flags are looked
at only for whole numbers and for bytes and long texts.
-/
def typeName (heading : Heading) : Except Failure String :=
  match heading.nameIn integerTypes with
  | some name => (fun unsigned => if unsigned then "UNSIGNED " ++ name else name)
    <$> heading.isUnsigned
  | none =>
    if blobCodes.any heading.hasCode then
      (fun binary => if binary then "BLOB" else "TEXT") <$> heading.isBinary
    else .ok ((heading.nameIn otherTypes).getD "")

end Heading

/-- A column of a result with its resolved type. -/
structure Column where
  name : Value
  typeName : String
  tag : TypeTag
  deriving DecidableEq, Repr

/-- The column with a name and a type name. -/
def Column.named (name : Value) (typeName : String) : Column :=
  ⟨name, typeName, TypeTag.ofTypeName typeName⟩

/-- The column that a heading describes. -/
def Heading.column (heading : Heading) : Except Failure Column :=
  .named heading.name <$> heading.typeName

/-- The column that the cells of a description describe. -/
def Column.ofCells (cells : List Value) : Except Failure Column := do
  (← Heading.ofCells cells).column

end DatabaseDump
