import Mathlib.Data.List.Basic
import DatabaseDump.Sql.Literal

/-!
# Texts between single quotes

A server reads a quoted text up to the first quote that no backslash stands before, and a
backslash gives the byte after it a meaning of its own. So bytes can be put between quotes
as they are only as long as no quote and no backslash is among them. That this is the only
condition, and that no luck with the bytes that follow makes up for it, is
`IsRaw.quotedBy_flatMap_iff`.

The idea is to look at the first byte of the two that comes up. Before it, all is read as it
was written. A quote ends the text there. A backslash is read as a backslash only if
another one comes next, and then reading has fallen behind by one byte, which it never makes up
for: `IsRaw.quotedBy_ne_of_behind`.

Bits are put between quotes with their zero bytes alone escaped. That is well read, but quotes
and backslashes among them are not.
-/

namespace DatabaseDump.Sql

namespace Reader

/--
A text up to its closing quote, and what follows. A backslash gives the next byte another
meaning.
-/
def quotedBy (meaning : UInt8 → UInt8) : Bytes → Option (Bytes × Bytes)
  | [] => none
  | b :: rest =>
    if b = quote then some ([], rest)
    else if b = backslash then
      match rest with
      | [] => none
      | c :: rest => (quotedBy meaning rest).map fun (value, left) => (meaning c :: value, left)
    else (quotedBy meaning rest).map fun (value, left) => (b :: value, left)

variable {meaning : UInt8 → UInt8}

theorem quotedBy_quote (rest : Bytes) : quotedBy meaning (quote :: rest) = some ([], rest) := by
  rw [quotedBy.eq_def]
  rfl

theorem quotedBy_backslash (b : UInt8) (rest : Bytes) :
    quotedBy meaning (backslash :: b :: rest)
      = (quotedBy meaning rest).map fun (value, left) => (meaning b :: value, left) := by
  rw [quotedBy.eq_def]
  rfl

theorem quotedBy_other {b : UInt8} (hquote : b ≠ quote) (hbackslash : b ≠ backslash)
    (rest : Bytes) :
    quotedBy meaning (b :: rest)
      = (quotedBy meaning rest).map fun (value, left) => (b :: value, left) := by
  rw [quotedBy.eq_def]
  simp only [if_neg hquote, if_neg hbackslash]

/-- What is read after a byte is what that byte stands before. -/
theorem eq_of_map_cons {b c : UInt8} {read : Option (Bytes × Bytes)} {value left : Bytes}
    (h : (read.map fun (value, left) => (b :: value, left)) = some (c :: value, left)) :
    b = c ∧ read = some (value, left) := by
  obtain ⟨⟨found, left'⟩, hread, heq⟩ := Option.map_eq_some_iff.mp h
  cases heq
  exact ⟨rfl, hread⟩

/-- A byte behind equal ones may as well stand before them. -/
theorem replicate_append_cons (b : UInt8) (count : Nat) (value : Bytes) :
    List.replicate count b ++ b :: value = b :: (List.replicate count b ++ value) := by
  rw [List.append_cons, ← List.replicate_succ', List.replicate_succ, List.cons_append]

/-! ## Raw texts -/

/--
How bytes are put between quotes: each as it is, or as a backslash and another byte that
means it there. Quotes and backslashes are written as they are.
-/
structure IsRaw (meaning : UInt8 → UInt8) (encode : UInt8 → Bytes) : Prop where
  /-- Only a backslash means a backslash. -/
  means : ∀ b, meaning b = backslash → b = backslash
  keeps : ∀ b, b = quote ∨ b = backslash → encode b = [b]
  other : ∀ b, b ≠ quote → b ≠ backslash → encode b = [b]
    ∨ ∃ c, c ≠ quote ∧ c ≠ backslash ∧ c ≠ b ∧ meaning c = b ∧ encode b = [backslash, c]

variable {encode : UInt8 → Bytes} {value rest left : Bytes}

/-- Every byte stands as it is, or behind a backslash as another one. -/
theorem IsRaw.isBare_or_escaped (h : IsRaw meaning encode) (b : UInt8) :
    encode b = [b]
      ∨ ∃ c, c ≠ quote ∧ c ≠ backslash ∧ c ≠ b ∧ encode b = [backslash, c] := by
  by_cases hspecial : b = quote ∨ b = backslash
  · exact .inl (h.keeps b hspecial)
  · obtain ⟨hquote, hbackslash⟩ := not_or.mp hspecial
    rcases h.other b hquote hbackslash with hbare | ⟨c, hc, hc', hne, -, hescaped⟩
    · exact .inl hbare
    · exact .inr ⟨c, hc, hc', hne, hescaped⟩

/-- A byte that is neither a quote nor a backslash is read as it was written. -/
theorem IsRaw.quotedBy_append (h : IsRaw meaning encode) {b : UInt8} (hquote : b ≠ quote)
    (hbackslash : b ≠ backslash) (rest : Bytes) :
    quotedBy meaning (encode b ++ rest)
      = (quotedBy meaning rest).map fun (value, left) => (b :: value, left) := by
  rcases h.other b hquote hbackslash with hbare | ⟨c, -, -, -, rfl, hescaped⟩
  · rw [hbare, List.singleton_append, quotedBy_other hquote hbackslash]
  · rw [hescaped, List.cons_append, List.singleton_append, quotedBy_backslash]

/-- Without quotes and backslashes a text is read whole, up to its closing quote. -/
theorem IsRaw.quotedBy_flatMap (h : IsRaw meaning encode) (hquote : quote ∉ value)
    (hbackslash : backslash ∉ value) (rest : Bytes) :
    quotedBy meaning (value.flatMap encode ++ quote :: rest) = some (value, rest) := by
  induction value with
  | nil => exact quotedBy_quote rest
  | cons b value ih =>
    obtain ⟨hb, hquote⟩ := not_or.mp (mt List.mem_cons.mpr hquote)
    obtain ⟨hb', hbackslash⟩ := not_or.mp (mt List.mem_cons.mpr hbackslash)
    rw [List.flatMap_cons, List.append_assoc, h.quotedBy_append (Ne.symm hb) (Ne.symm hb'),
      ih hquote hbackslash]
    rfl

/--
Reading that has fallen behind by some backslashes never catches up: neither a text nor a text
behind one more backslash is read as the text behind `count + 1` of them.
-/
theorem IsRaw.quotedBy_ne_of_behind (h : IsRaw meaning encode) (value rest left : Bytes)
    (count : Nat) :
    quotedBy meaning (value.flatMap encode ++ quote :: rest)
        ≠ some (backslash :: (List.replicate count backslash ++ value), left)
    ∧ quotedBy meaning (backslash :: (value.flatMap encode ++ quote :: rest))
        ≠ some (backslash :: (List.replicate count backslash ++ value), left) := by
  induction value generalizing count with
  | nil =>
    rw [List.flatMap_nil, List.nil_append, quotedBy_quote, quotedBy_backslash]
    constructor
    · intro hread
      cases hread
    · intro hread
      have hquote := h.means quote (eq_of_map_cons hread).1
      exact absurd hquote (by decide)
  | cons b value ih =>
    rw [List.flatMap_cons, List.append_assoc]
    constructor
    · intro hread
      by_cases hquote : b = quote
      · rw [h.keeps b (.inl hquote), hquote, List.singleton_append, quotedBy_quote] at hread
        cases hread
      by_cases hbackslash : b = backslash
      · -- the backslash is read together with what comes next
        rw [h.keeps b (.inr hbackslash), hbackslash, List.singleton_append,
          replicate_append_cons] at hread
        exact (ih (count + 1)).2 hread
      · rw [h.quotedBy_append hquote hbackslash] at hread
        exact hbackslash (eq_of_map_cons hread).1
    · intro hread
      rcases h.isBare_or_escaped b with hbare | ⟨c, hquote, hbackslash, hne, hescaped⟩
      · -- two backslashes are read as one, so reading is still behind
        rw [hbare, List.singleton_append, quotedBy_backslash] at hread
        obtain ⟨hb, hread⟩ := eq_of_map_cons hread
        rw [h.means b hb, replicate_append_cons] at hread
        exact (ih count).1 hread
      · -- the second backslash means itself, and the byte behind it no longer what it should
        rw [hescaped, List.cons_append, List.singleton_append, quotedBy_backslash] at hread
        have hread := (eq_of_map_cons hread).2
        rw [quotedBy_other hquote hbackslash] at hread
        cases count with
        | zero => exact hne (eq_of_map_cons hread).1
        | succ count => exact hbackslash (eq_of_map_cons hread).1

/-- **Raw bytes are read back exactly when no quote or backslash is among them.** -/
theorem IsRaw.quotedBy_flatMap_iff (h : IsRaw meaning encode) (value rest : Bytes) :
    (∃ left, quotedBy meaning (value.flatMap encode ++ quote :: rest) = some (value, left))
      ↔ quote ∉ value ∧ backslash ∉ value := by
  constructor
  · rintro ⟨left, hread⟩
    induction value with
    | nil => exact ⟨List.not_mem_nil, List.not_mem_nil⟩
    | cons b value ih =>
      rw [List.flatMap_cons, List.append_assoc] at hread
      by_cases hquote : b = quote
      · rw [h.keeps b (.inl hquote), hquote, List.singleton_append, quotedBy_quote] at hread
        cases hread
      by_cases hbackslash : b = backslash
      · rw [h.keeps b (.inr hbackslash), hbackslash, List.singleton_append] at hread
        exact absurd hread (h.quotedBy_ne_of_behind value rest left 0).2
      · rw [h.quotedBy_append hquote hbackslash] at hread
        obtain ⟨hquotes, hbackslashes⟩ := ih (eq_of_map_cons hread).2
        exact ⟨List.not_mem_cons_of_ne_of_not_mem (Ne.symm hquote) hquotes,
          List.not_mem_cons_of_ne_of_not_mem (Ne.symm hbackslash) hbackslashes⟩
  · rintro ⟨hquote, hbackslash⟩
    exact ⟨rest, h.quotedBy_flatMap hquote hbackslash rest⟩

/-! ## Bits -/

/-- What a byte means behind a backslash in a text of bits: a zero means the zero byte. -/
def zeroMeaning (b : UInt8) : UInt8 := if b = 0x30 then 0 else b

/-- The bits of a literal: what its quoted text stands for, which must end with the literal. -/
def bits (literal : Bytes) : Option Bytes := do
  let (value, left) ← quotedBy zeroMeaning (← literal.dropPrefix? (Text.utf8 "_binary '"))
  if left.isEmpty then some value else none

theorem isRaw_bitByte : IsRaw zeroMeaning bitByte where
  means := by
    intro b hb
    unfold zeroMeaning at hb
    split at hb
    · exact absurd hb (by decide)
    · exact hb
  keeps := by
    rintro b (rfl | rfl)
    · rfl
    · rfl
  other := by
    intro b _ _
    by_cases hzero : b = 0
    · subst hzero
      exact .inr ⟨0x30, by decide, by decide, by decide, rfl, rfl⟩
    · exact .inl (if_neg hzero)

theorem bits_bitLiteral (value : Bytes) :
    bits (bitLiteral value)
      = (quotedBy zeroMeaning (value.flatMap bitByte ++ [quote])).bind fun (value, left) =>
        if left.isEmpty then some value else none := by
  rw [bits, bitLiteral, List.append_assoc, List.dropPrefix?_append_of_beq _ BEq.rfl]
  rfl

/--
**A literal of bits stands for the bits it was made of exactly when no byte of them is a quote
or a backslash.**
-/
theorem bits_literal_eq_some_iff (value : Bytes) :
    bits (literal .bit (some value)) = some value ↔ quote ∉ value ∧ backslash ∉ value := by
  have hliteral : literal .bit (some value) = bitLiteral value := rfl
  rw [hliteral, bits_bitLiteral]
  constructor
  · intro hread
    obtain ⟨⟨found, left⟩, hquoted, hended⟩ := Option.bind_eq_some_iff.mp hread
    dsimp only at hended
    split at hended
    · cases hended
      exact (isRaw_bitByte.quotedBy_flatMap_iff value []).mp ⟨left, hquoted⟩
    · cases hended
  · rintro ⟨hquote, hbackslash⟩
    rw [isRaw_bitByte.quotedBy_flatMap hquote hbackslash []]
    rfl

/--
A quote among the bits ends the literal early, a backslash at their end hides its closing
quote, and a backslash before a zero turns both into another byte.
-/
theorem bits_of_special_bytes :
    literal .bit (some [quote]) = Text.utf8 "_binary '''"
    ∧ quotedBy zeroMeaning [quote, quote] = some ([], [quote])
    ∧ bits (literal .bit (some [quote])) = none
    ∧ bits (literal .bit (some [backslash])) = none
    ∧ bits (literal .bit (some [backslash, 0x30])) = some [0] := by
  decide

end Reader

end DatabaseDump.Sql
