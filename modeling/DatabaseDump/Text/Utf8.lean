/-!
# UTF-8 with stray bytes

A field of a table is any list of bytes. Read as UTF-8 it becomes a list of symbols:
a symbol is a character, or a stray byte that is part of no valid encoding. Writing
the symbols back gives the bytes they were read from.
-/

namespace DatabaseDump

/-- Raw data as the server sends it and as files hold it. -/
abbrev Bytes := List UInt8

namespace Text

/-- The UTF-8 encoding of a text. -/
def utf8 (s : String) : Bytes := s.toList.flatMap String.utf8EncodeChar

theorem utf8_append (s t : String) : utf8 (s ++ t) = utf8 s ++ utf8 t := by
  simp [utf8, String.toList_append]

/-- One symbol of a field: a character, or a byte that belongs to none. -/
inductive Symbol where
  | char (c : Char)
  | stray (b : UInt8)
  deriving DecidableEq, Repr

/-- Whether a byte continues an encoding of several bytes. -/
def isContinuation (b : UInt8) : Bool := 0x80 ≤ b && b ≤ 0xBF

/-- The six bits that a continuation byte carries. -/
def payload (b : UInt8) : Nat := b.toNat % 64

/--
The character whose encoding opens the list, with the number of its bytes. Forms
that are longer than needed, surrogates and numbers beyond U+10FFFF are none.
-/
def leadingChar? : Bytes → Option (Char × Nat)
  | [] => none
  | b :: rest =>
    if b < 0x80 then some (Char.ofNat b.toNat, 1)
    else if b < 0xC2 then none
    else if b < 0xE0 then
      match rest with
      | c :: _ =>
        if isContinuation c then some (Char.ofNat ((b.toNat - 0xC0) * 64 + payload c), 2) else none
      | [] => none
    else if b < 0xF0 then
      match rest with
      | c :: d :: _ =>
        let code := (b.toNat - 0xE0) * 4096 + payload c * 64 + payload d
        if isContinuation c && isContinuation d && 0x800 ≤ code
            && !(0xD800 ≤ code && code ≤ 0xDFFF) then
          some (Char.ofNat code, 3)
        else none
      | _ => none
    else if b < 0xF5 then
      match rest with
      | c :: d :: e :: _ =>
        let code := (b.toNat - 0xF0) * 262144 + payload c * 4096 + payload d * 64 + payload e
        if isContinuation c && isContinuation d && isContinuation e && 0x10000 ≤ code
            && code ≤ 0x10FFFF then
          some (Char.ofNat code, 4)
        else none
      | _ => none
    else none

/--
Reads bytes as symbols. The count says how many bytes of the last character are still
to be skipped.
-/
def symbolsFrom : Nat → Bytes → List Symbol
  | _, [] => []
  | skip + 1, _ :: rest => symbolsFrom skip rest
  | 0, b :: rest =>
    match leadingChar? (b :: rest) with
    | some (c, width) => .char c :: symbolsFrom (width - 1) rest
    | none => .stray b :: symbolsFrom 0 rest

/-- Reads bytes as UTF-8, each byte that fits nowhere as a symbol of its own. -/
def symbols (bytes : Bytes) : List Symbol := symbolsFrom 0 bytes

/-- The bytes a symbol stands for. -/
def Symbol.bytes : Symbol → Bytes
  | .char c => String.utf8EncodeChar c
  | .stray b => [b]

/-- The bytes that a list of symbols stands for. -/
def bytesOf (field : List Symbol) : Bytes := field.flatMap Symbol.bytes

/-- A text as symbols. -/
def symbolsOfText (s : String) : List Symbol := s.toList.map .char

end Text

end DatabaseDump
