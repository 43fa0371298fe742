import DatabaseDump.CommandLine.Flag
import DatabaseDump.Text.DecimalDigit

/-!
# Tokens

Each argument is a flag or a value, and which of them it is depends on the argument
alone, except that everything behind a lone pair of dashes is a value. A flag with one
dash may be shortened as long as only one flag begins that way, and a flag of one
letter may have its value attached.
-/

namespace DatabaseDump.CommandLine

/-- Why arguments are rejected. -/
inductive UsageFault where
  | ambiguous (argument : String) (candidates : List String)
  | missingValue (flag : Flag)
  | needlessValue (flag : Flag) (attached : String)
  | notBoolean (flag : Flag) (text : String)
  | notInteger (flag : Flag) (text : String)
  | unrecognized (arguments : List String)
  deriving DecidableEq, Repr

/-- The wording of a fault of one flag. -/
def aboutFlag (flag : Flag) (message : String) : String :=
  "argument " ++ flag.shown ++ ": " ++ message

/-- The wording of a fault. -/
def UsageFault.message : UsageFault → String
  | .ambiguous argument candidates =>
    "ambiguous option: " ++ argument ++ " could match " ++ String.intercalate ", " candidates
  | .missingValue flag => aboutFlag flag "expected one argument"
  | .needlessValue flag attached =>
    aboutFlag flag ("ignored explicit argument " ++ Text.quoted attached)
  | .notBoolean flag text => aboutFlag flag (Failure.notBoolean text).message
  | .notInteger flag text => aboutFlag flag ("invalid int value: " ++ Text.quoted text)
  | .unrecognized arguments =>
    "unrecognized arguments: " ++ String.intercalate " " arguments

/-- One argument of the command line. -/
inductive Token where
  | value (text : String)
  /-- The lone pair of dashes. -/
  | separator
  /-- A flag as it was spelled, with the text attached to it. -/
  | flag (flag : Flag) (spelling : String) (attached : Option String)
  /-- What looks like a flag and is none. -/
  | unknown (text : String)
  deriving DecidableEq, Repr

/-- The text before the first equals sign, and the one behind it. -/
def splitAtEquals (s : String) : Option (String × String) :=
  let chars := s.toList
  if chars.contains '=' then
    some (String.ofList (chars.takeWhile (· != '=')),
      String.ofList ((chars.dropWhile (· != '=')).drop 1))
  else none

/-- A flag that an argument may stand for. -/
abbrev Candidate := String × Flag × Option String

/-- What an argument with one dash makes of one spelling. -/
def candidateOf? (argument : String) (entry : String × Flag) : Option Candidate :=
  if entry.1.toList == argument.toList.take 2 then
    some (entry.1, entry.2, some (String.ofList (argument.toList.drop 2)))
  else if argument.toList.isPrefixOf entry.1.toList then some (entry.1, entry.2, none)
  else none

/-- The flags that an argument may stand for. Two dashes allow no shortening. -/
def candidates (argument : String) : List Candidate :=
  match argument.toList with
  | '-' :: '-' :: _ => []
  | _ => spellings.filterMap (candidateOf? argument)

/-- Whether characters are digits and at least one. -/
def areDigits (s : List Char) : Bool := !s.isEmpty && s.all Text.isDecimalDigit

/-- Whether an argument is a number with a minus before it, perhaps with a newline behind it. -/
def isNegativeNumber (argument : String) : Bool :=
  match argument.toList with
  | '-' :: body =>
    let body := if body.getLast? == some '\n' then body.dropLast else body
    let whole := body.takeWhile Text.isDecimalDigit
    match body.drop whole.length with
    | [] => !whole.isEmpty
    | '.' :: fraction => areDigits fraction
    | _ => false
  | _ => false

/-- What an argument is that has a dash in front and is no spelling of a flag. -/
def classifyDashed (argument : String) : Except UsageFault Token :=
  match candidates argument with
  | [(spelling, flag, attached)] => .ok (.flag flag spelling attached)
  | [] =>
    if isNegativeNumber argument || argument.toList.contains ' ' then .ok (.value argument)
    else .ok (.unknown argument)
  | several => .error (.ambiguous argument (several.map Prod.fst))

/-- The flag that an argument gives in full, with an equals sign before its value. -/
def assigned? (argument : String) : Option Token := do
  let (spelling, attached) ← splitAtEquals argument
  let flag ← flagSpelled? spelling
  return .flag flag spelling (some attached)

/-- What an argument is. -/
def classify (argument : String) : Except UsageFault Token :=
  if argument.toList.head? != some '-' || argument == "-" then .ok (.value argument)
  else match flagSpelled? argument with
    | some flag => .ok (.flag flag argument none)
    | none =>
      match assigned? argument with
      | some token => .ok token
      | none => classifyDashed argument

/-- The tokens of a list of arguments. -/
def tokens : List String → Except UsageFault (List Token)
  | [] => .ok []
  | "--" :: rest => .ok (.separator :: rest.map .value)
  | argument :: rest => do return (← classify argument) :: (← tokens rest)

end DatabaseDump.CommandLine
