/-!
# Finding, replacing and splitting

Operations on texts as lists of characters: whether one text occurs in another,
replacing every occurrence from left to right, and cutting at a separator.
-/

namespace DatabaseDump.Text

/-- Whether `needle` occurs somewhere in `hay`. The empty text occurs everywhere. -/
def occursIn (needle : List Char) : List Char → Bool
  | [] => needle.isEmpty
  | c :: rest => needle.isPrefixOf (c :: rest) || occursIn needle rest

/-- What occurs in a text is one of its infixes. -/
theorem occursIn_iff {needle hay : List Char} : occursIn needle hay = true ↔ needle <:+: hay := by
  induction hay with
  | nil => rw [occursIn, List.isEmpty_iff, List.infix_nil]
  | cons c rest ih =>
    rw [occursIn, Bool.or_eq_true, List.isPrefixOf_iff_prefix, ih, List.infix_cons_iff]

/-- Whether one text occurs in another. -/
def contains (hay needle : String) : Bool := occursIn needle.toList hay.toList

/--
Replaces `needle` from left to right, never inside what was put in. The count says
how many characters of an occurrence are still to be skipped.
-/
def replaceFrom (needle replacement : List Char) : Nat → List Char → List Char
  | _, [] => []
  | skip + 1, _ :: rest => replaceFrom needle replacement skip rest
  | 0, c :: rest =>
    if needle.isPrefixOf (c :: rest) then
      replacement ++ replaceFrom needle replacement (needle.length - 1) rest
    else c :: replaceFrom needle replacement 0 rest

/-- Replaces every occurrence of a needle that is not empty. -/
def replaceAll (needle replacement s : List Char) : List Char :=
  replaceFrom needle replacement 0 s

/-- Cuts a text at every separator, so that there is always one piece more than separators. -/
def splitOnChar (separator : Char) : List Char → List (List Char)
  | [] => [[]]
  | c :: rest =>
    if c = separator then [] :: splitOnChar separator rest
    else match splitOnChar separator rest with
      | [] => [[c]]
      | piece :: pieces => (c :: piece) :: pieces

/-- Cutting at a separator is what the library calls splitting. -/
theorem splitOnChar_eq_splitOn (separator : Char) (s : List Char) :
    splitOnChar separator s = s.splitOn separator := by
  induction s with
  | nil => rfl
  | cons c rest ih =>
    rw [splitOnChar, ih, List.splitOn_cons_eq_if_modifyHead]
    by_cases hc : c = separator
    · rw [if_pos hc, if_pos (beq_iff_eq.mpr hc)]
    · rw [if_neg hc, if_neg fun heq => hc (eq_of_beq heq)]
      cases hpieces : rest.splitOn separator with
      | nil => exact absurd hpieces (List.splitOn_ne_nil separator rest)
      | cons piece pieces => rfl

/-- The letters A to Z in lower case, all else unchanged. -/
def lowerAscii (s : String) : String := String.ofList (s.toList.map Char.toLower)

end DatabaseDump.Text
