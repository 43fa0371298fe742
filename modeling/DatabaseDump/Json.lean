import DatabaseDump.Decimal.Shortest
import DatabaseDump.Text.Hex
import DatabaseDump.Value

/-!
# Values in JSON

Configuration files are read, and values are written, in JSON. Whole numbers and
numbers with a fraction or an exponent stay apart, and fields keep their order; of
two fields of one name the later value counts. Infinities and what is no number have
words of their own.
-/

namespace DatabaseDump.Json

/-- Drops the blanks between the parts of a document. -/
def skipBlanks (s : List Char) : List Char :=
  s.dropWhile fun c => c == ' ' || c == '\t' || c == '\n' || c == '\r'

/-- Reads four hexadecimal digits. -/
def readHex4 : List Char → Option (Nat × List Char)
  | a :: b :: c :: d :: rest => do
    let a ← Text.hexValue? a
    let b ← Text.hexValue? b
    let c ← Text.hexValue? c
    let d ← Text.hexValue? d
    some (((a * 16 + b) * 16 + c) * 16 + d, rest)
  | _ => none

/-- The character after a backslash that stands for another one. -/
def unescape? : Char → Option Char
  | '"' => some '"'
  | '\\' => some '\\'
  | '/' => some '/'
  | 'b' => some '\x08'
  | 'f' => some '\x0c'
  | 'n' => some '\n'
  | 'r' => some '\r'
  | 't' => some '\t'
  | _ => none

/-- Reads a numbered character, where two halves of a pair stand for one. -/
def readNumbered (s : List Char) : Option (Char × List Char) := do
  let (high, rest) ← readHex4 s
  if 0xD800 ≤ high ∧ high < 0xDC00 then
    match rest with
    | '\\' :: 'u' :: rest =>
      let (low, rest) ← readHex4 rest
      if 0xDC00 ≤ low ∧ low < 0xE000 then
        some (Char.ofNat (0x10000 + (high - 0xD800) * 0x400 + (low - 0xDC00)), rest)
      else none
    | _ => none
  else if 0xDC00 ≤ high ∧ high < 0xE000 then none
  else some (Char.ofNat high, rest)

/-- Reads a text up to its closing quote; `fuel` bounds the characters left. -/
def readText : (fuel : Nat) → List Char → List Char → Option (String × List Char)
  | 0, _, _ => none
  | fuel + 1, done, s =>
    match s with
    | '"' :: rest => some (String.ofList done.reverse, rest)
    | '\\' :: 'u' :: rest => do
      let (c, rest) ← readNumbered rest
      readText fuel (c :: done) rest
    | '\\' :: c :: rest => do
      let c ← unescape? c
      readText fuel (c :: done) rest
    | c :: rest => readText fuel (c :: done) rest
    | [] => none

/-- The number that plain digits stand for. -/
def plainValue (digits : List Char) : Nat :=
  digits.foldl (fun n c => 10 * n + (c.toNat - 48)) 0

/-- Reads an exponent with its mark, if there is one. -/
def readExponent : List Char → Option Int × List Char
  | 'e' :: '-' :: rest | 'E' :: '-' :: rest =>
    (some (-(plainValue (rest.takeWhile Char.isDigit) : Int)), rest.dropWhile Char.isDigit)
  | 'e' :: '+' :: rest | 'E' :: '+' :: rest | 'e' :: rest | 'E' :: rest =>
    (some (plainValue (rest.takeWhile Char.isDigit)), rest.dropWhile Char.isDigit)
  | rest => (none, rest)

/-- Reads a finite number. -/
def readFinite (s : List Char) : Option (Value × List Char) :=
  let negative := s.head? == some '-'
  let s := if negative then s.drop 1 else s
  let whole := s.takeWhile Char.isDigit
  let s := s.dropWhile Char.isDigit
  if whole.isEmpty then none
  else
    let (fraction, s) := match s with
      | '.' :: rest => (some (rest.takeWhile Char.isDigit), rest.dropWhile Char.isDigit)
      | _ => (none, s)
    let (exponent, s) := readExponent s
    if fraction.isNone && exponent.isNone then
      let n : Int := plainValue whole
      some (.int (if negative then -n else n), s)
    else
      let fraction := fraction.getD []
      let power := exponent.getD 0 - fraction.length
      let x := Float.ofScientific (plainValue (whole ++ fraction)) (power < 0) power.natAbs
      some (.float (if negative then -x else x), s)

/-- The infinity above all numbers. -/
def infinity : Float := 1.0 / 0.0

/-- What is no number. -/
def notNumber : Float := 0.0 / 0.0

/-- The words for what is no finite number. -/
def specialNumbers : List (List Char × Float) :=
  [("NaN".toList, notNumber), ("Infinity".toList, infinity), ("-Infinity".toList, -infinity)]

/-- Reads a number. -/
def readNumber (s : List Char) : Option (Value × List Char) :=
  match specialNumbers.find? fun entry => entry.1.isPrefixOf s with
  | some (word, x) => some (.float x, s.drop word.length)
  | none => readFinite s

mutual

/-- Reads a value; `fuel` bounds the characters left. -/
def readValue : (fuel : Nat) → List Char → Option (Value × List Char)
  | 0, _ => none
  | fuel + 1, s =>
    match skipBlanks s with
    | 'n' :: 'u' :: 'l' :: 'l' :: rest => some (.null, rest)
    | 't' :: 'r' :: 'u' :: 'e' :: rest => some (.bool true, rest)
    | 'f' :: 'a' :: 'l' :: 's' :: 'e' :: rest => some (.bool false, rest)
    | '"' :: rest => do
      let (text, rest) ← readText (rest.length + 1) [] rest
      some (.text text, rest)
    | '[' :: rest =>
      match skipBlanks rest with
      | ']' :: rest => some (.list [], rest)
      | rest => do
        let (items, rest) ← readItems fuel rest
        some (.list items, rest)
    | '\x7b' :: rest =>
      match skipBlanks rest with
      | '\x7d' :: rest => some (.object [], rest)
      | rest => do
        let (fields, rest) ← readFields fuel [] rest
        some (.object fields, rest)
    | rest => readNumber rest

/-- Reads the items of a list up to its closing bracket. -/
def readItems : (fuel : Nat) → List Char → Option (List Value × List Char)
  | 0, _ => none
  | fuel + 1, s => do
    let (item, rest) ← readValue fuel s
    match skipBlanks rest with
    | ',' :: rest =>
      let (items, rest) ← readItems fuel rest
      some (item :: items, rest)
    | ']' :: rest => some ([item], rest)
    | _ => none

/-- Reads fields up to the closing brace, adding them to those read before. -/
def readFields : (fuel : Nat) → Fields → List Char → Option (Fields × List Char)
  | 0, _, _ => none
  | fuel + 1, fields, s =>
    match skipBlanks s with
    | '"' :: rest => do
      let (name, rest) ← readText (rest.length + 1) [] rest
      match skipBlanks rest with
      | ':' :: rest =>
        let (value, rest) ← readValue fuel rest
        let fields := Fields.set fields name value
        match skipBlanks rest with
        | ',' :: rest => readFields fuel fields rest
        | '\x7d' :: rest => some (fields, rest)
        | _ => none
      | _ => none
    | _ => none

end

/-- The value that a document holds, and `none` when it is malformed. -/
def parse? (document : String) : Option Value := do
  let s := document.toList
  let (value, rest) ← readValue (s.length + 1) s
  if (skipBlanks rest).isEmpty then some value else none

/-- One character inside a written text. -/
def renderChar (c : Char) : List Char :=
  if c = '"' ∨ c = '\\' then ['\\', c]
  else if c.toNat < 0x20 then '\\' :: 'u' :: Text.hexDigits .lower 4 c.toNat
  else [c]

/-- A text between quotes. -/
def renderText (s : String) : String :=
  String.ofList ('"' :: s.toList.flatMap renderChar ++ ['"'])

/-- A number in binary form as a document. -/
def renderFloat (x : Float) : String :=
  if x.isNaN then "NaN"
  else if x.isInf then (if Decimal.isNegative x then "-Infinity" else "Infinity")
  else Decimal.text x

mutual

/-- A value as a document. -/
def render : Value → String
  | .null => "null"
  | .bool b => if b then "true" else "false"
  | .int n => toString n
  | .float x => renderFloat x
  | .text s => renderText s
  | .list items => "[" ++ String.intercalate "," (renderItems items) ++ "]"
  | .object fields => "\x7b" ++ String.intercalate "," (renderFields fields) ++ "\x7d"

/-- The items of a list as documents. -/
def renderItems : List Value → List String
  | [] => []
  | item :: rest => render item :: renderItems rest

/-- Fields as they stand in a document. -/
def renderFields : List (String × Value) → List String
  | [] => []
  | (name, value) :: rest => (renderText name ++ ":" ++ render value) :: renderFields rest

end

end DatabaseDump.Json
