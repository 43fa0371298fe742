import DatabaseDump.Proofs.CsvReader

/-!
# What is written like nothing

A cell without a value is written as the sentinel, a backslash and the letter N, and a
reader takes every such field for nothing. Two values are written the same way.

* Backslashes are doubled, but a field that is the sentinel already stays as it is. So the
  value made of just these two bytes is kept.
* When the letter N is among the characters to be escaped, the value of that one letter
  gets its backslash and is the sentinel then.

There are no others, whatever the type of the column and the escaper.
-/

namespace DatabaseDump.Csv

open Text (Symbol symbols)

theorem symbols_eq_sentinel_iff (value : Bytes) :
    symbols value = sentinel ↔ value = [0x5C, 0x4E] := by
  constructor
  · intro h
    by_contra hvalue
    exact symbols_ne_sentinel hvalue h
  · rintro rfl
    decide

/-- Doubling makes no sentinel, so only its own bytes are written as one. -/
theorem field_eq_sentinel_iff (cell : Cell) :
    field cell = sentinel ↔ cell = none ∨ cell = some [0x5C, 0x4E] := by
  cases cell with
  | none => simp [field]
  | some value =>
    have hvalue : field (some value) = sentinel ↔ symbols value = sentinel := by
      by_cases h : symbols value = sentinel
      · simp [field, doubleBackslashes, h]
      · rw [field, doubleBackslashes, if_neg h]
        exact iff_of_false (escapes_doubled.flatMap_ne_sentinel rfl _) h
    rw [hvalue, symbols_eq_sentinel_iff]
    simp

theorem field_eq_letter_iff (cell : Cell) : field cell = [.char 'N'] ↔ cell = some [0x4E] := by
  constructor
  · intro h
    cases cell with
    | none => cases h
    | some value =>
      have hne : symbols value ≠ sentinel := by
        intro hsentinel
        rw [field, doubleBackslashes, if_pos hsentinel, hsentinel] at h
        cases h
      rw [field, doubleBackslashes, if_neg hne] at h
      have hvalue : symbols value = [.char 'N'] := by
        rw [← escapes_doubled.dropMarks_flatMap (symbols value), h]
        rfl
      rw [← Text.bytesOf_symbols value, hvalue]
      rfl
  · rintro rfl
    decide

namespace Escaper

variable {chars : List Char}

theorem escapedSymbol_cases (chars : List Char) (s : Symbol) :
    (∃ c ∈ chars, s = .char c) ∧ escapedSymbol chars s = [.char '\\', s]
      ∨ escapedSymbol chars s = [s] := by
  cases s with
  | stray b => exact .inr rfl
  | char c =>
    by_cases h : chars.contains c = true
    · exact .inl ⟨⟨c, by simpa using h, rfl⟩, if_pos h⟩
    · exact .inr (if_neg h)

theorem eq_nil_of_flatMap_escapedSymbol {field : List Symbol}
    (h : field.flatMap (escapedSymbol chars) = []) : field = [] := by
  cases field with
  | nil => rfl
  | cons s field =>
    rw [List.flatMap_cons] at h
    rcases escapedSymbol_cases chars s with ⟨-, hs⟩ | hs <;> simp [hs] at h

theorem eq_singleton_of_flatMap_escapedSymbol {field : List Symbol} {t : Symbol}
    (h : field.flatMap (escapedSymbol chars) = [t]) : field = [t] := by
  cases field with
  | nil => cases h
  | cons s field =>
    rw [List.flatMap_cons] at h
    rcases escapedSymbol_cases chars s with ⟨-, hs⟩ | hs
    · simp [hs] at h
    · rw [hs, List.singleton_append] at h
      obtain ⟨rfl, hrest⟩ := List.cons.inj h
      rw [eq_nil_of_flatMap_escapedSymbol hrest]

/-- Escaping makes the sentinel of one field that is none yet: the letter by itself. -/
theorem flatMap_escapedSymbol_eq_sentinel_iff {field : List Symbol} (hne : field ≠ sentinel) :
    field.flatMap (escapedSymbol chars) = sentinel ↔ 'N' ∈ chars ∧ field = [.char 'N'] := by
  constructor
  · intro h
    cases field with
    | nil => cases h
    | cons s field =>
      rw [List.flatMap_cons] at h
      rcases escapedSymbol_cases chars s with ⟨⟨c, hc, rfl⟩, hs⟩ | hs
      · -- the backslash was put there, so the letter is the first symbol and the last one
        rw [hs] at h
        obtain ⟨hletter, hrest⟩ := List.cons.inj (List.cons.inj h).2
        obtain rfl := Symbol.char.inj hletter
        rw [eq_nil_of_flatMap_escapedSymbol hrest]
        exact ⟨hc, rfl⟩
      · -- the backslash is a symbol of the field itself, and so is the letter behind it
        rw [hs] at h
        obtain ⟨rfl, hrest⟩ := List.cons.inj h
        rw [eq_singleton_of_flatMap_escapedSymbol hrest] at hne
        exact absurd rfl hne
  · rintro ⟨hletter, rfl⟩
    simp [escapedSymbol, hletter, sentinel]

/--
**A field is the sentinel for nothing and for two values.**

The first one is kept although backslashes are doubled; the second one takes a backslash
where the letter N is to be escaped. So nothing can be told from every other value.
-/
theorem encode_eq_sentinel_iff (escaper : Escaper) (tag : TypeTag) (cell : Cell) :
    (field cell = sentinel ↔ cell = none ∨ cell = some [0x5C, 0x4E])
    ∧ (escaper.encode tag cell = sentinel ↔ cell = none ∨ cell = some [0x5C, 0x4E]
      ∨ (escaper.enabled = true ∧ tag.isString = true ∧ 'N' ∈ escaper.chars)
        ∧ cell = some [0x4E]) := by
  refine ⟨field_eq_sentinel_iff cell, ?_⟩
  by_cases henabled : escaper.enabled = true ∧ tag.isString = true
  · rw [encode, if_pos (by simpa using henabled), escape]
    by_cases hfield : field cell = sentinel
    · rw [if_pos hfield]
      refine iff_of_true hfield ?_
      rcases (field_eq_sentinel_iff cell).mp hfield with hnone | hkept
      · exact .inl hnone
      · exact .inr (.inl hkept)
    · rw [if_neg hfield, flatMap_escapedSymbol_eq_sentinel_iff hfield, field_eq_letter_iff]
      rw [field_eq_sentinel_iff, not_or] at hfield
      simp [hfield, henabled]
  · have hkept : ¬(escaper.enabled && tag.isString) = true := by simpa using henabled
    rw [encode, if_neg hkept, field_eq_sentinel_iff]
    refine or_congr_right (iff_self_or.mpr ?_)
    rintro ⟨⟨hon, hstring, -⟩, -⟩
    exact absurd ⟨hon, hstring⟩ henabled

/-- Each of the two values is written as the sentinel. -/
theorem two_values_encode_as_sentinel :
    field (some (Text.utf8 "\\N")) = sentinel
    ∧ encode {} .varchar (some (Text.utf8 "\\N")) = sentinel
    ∧ encode ⟨true, ['N']⟩ .varchar (some (Text.utf8 "N")) = sentinel := by
  decide

end Escaper

end DatabaseDump.Csv
