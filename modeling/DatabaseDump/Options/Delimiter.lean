import DatabaseDump.Failure
import DatabaseDump.Value

/-!
# The delimiter of fields

A delimiter is a single character. It may be given by numbers of code points, among
them the surrogates, which are no characters.
-/

namespace DatabaseDump.Options

/-- Whether a code point is a surrogate. -/
def isSurrogate (code : Nat) : Bool := 0xD800 ≤ code && code ≤ 0xDFFF

/-- The delimiter that code points make up. -/
def delimiterOfCodes : List Nat → Except Failure Char
  | [] => .error .emptyDelimiter
  | [code] => if isSurrogate code then .error .surrogateDelimiter else .ok (Char.ofNat code)
  | _ => .error .severalDelimiters

/-- The failure of a delimiter given as several things, or as one that is no text. -/
def delimiterFailure (count : Nat) (shape : Shape) : Failure :=
  if 1 < count then .severalDelimiters else .notComparable .text shape

/-- The delimiter that a setting gives. -/
def delimiterOf (setting : Value) : Except Failure Char :=
  if !setting.isGiven then .error .emptyDelimiter
  else match setting with
    | .text s => delimiterOfCodes (s.toList.map Char.toNat)
    | .list items => .error (delimiterFailure items.length setting.shape)
    | .object fields => .error (delimiterFailure fields.length setting.shape)
    | other => .error (.noLength other.shape)

theorem isSurrogate_toNat (c : Char) : isSurrogate c.toNat = false := by
  have hvalid : c.toNat < 0xD800 ∨ 0xDFFF < c.toNat ∧ c.toNat < 0x110000 := c.valid
  simp only [isSurrogate, Bool.and_eq_false_iff, decide_eq_false_iff_not]
  omega

theorem delimiterOfCodes_eq_ok_iff {chars : List Char} {delimiter : Char} :
    delimiterOfCodes (chars.map Char.toNat) = .ok delimiter ↔ chars = [delimiter] := by
  match chars with
  | [] => simp [delimiterOfCodes]
  | [c] => simp [delimiterOfCodes, isSurrogate_toNat]
  | c :: d :: rest => simp [delimiterOfCodes]

/-- A text of one character gives it, and no other setting gives a delimiter. -/
theorem delimiterOf_eq_ok_iff {setting : Value} {delimiter : Char} :
    delimiterOf setting = .ok delimiter ↔ setting = .text (String.singleton delimiter) := by
  constructor
  · intro h
    unfold delimiterOf at h
    split at h
    · cases h
    cases setting with
    | text s =>
      rw [← String.ofList_toList (s := s), delimiterOfCodes_eq_ok_iff.mp h]
      rfl
    | null | bool | int | float | list | object => cases h
  · rintro rfl
    have hchars : delimiterOfCodes ((String.singleton delimiter).toList.map Char.toNat)
        = .ok delimiter := delimiterOfCodes_eq_ok_iff.mpr (String.toList_singleton delimiter)
    simpa [delimiterOf, Value.isGiven] using hchars

end DatabaseDump.Options
