import DatabaseDump.Proofs.Packing
import Mathlib.Data.List.Forall2

/-!
# Insert statements can be read back

A reader that knows a table's name and the tags of its columns, and nothing else of the
table, takes the output apart again: it strips what every statement opens with, reads
tuples cell by cell, takes the byte after a backslash as it is, and pairs up the
hexadecimal digits of bytes.

Every lemma below says that a piece of the output is read whole and that reading stops
exactly where the piece ends, whatever follows. So the lemmas chain: cells make a tuple,
tuples a statement, statements a table. Nothing that a text holds can end it early,
because the only quote without a backslash before it is the closing one.
-/

namespace DatabaseDump.Sql.Reader

/-- A text up to its closing quote, and what follows. A backslash takes the next byte as it is. -/
def quoted : Bytes → Option (Bytes × Bytes)
  | [] => none
  | b :: rest =>
    if b = quote then some ([], rest)
    else if b = backslash then
      match rest with
      | [] => none
      | c :: rest => (quoted rest).map fun (value, left) => (c :: value, left)
    else (quoted rest).map fun (value, left) => (b :: value, left)

theorem quoted_quote (rest : Bytes) : quoted (quote :: rest) = some ([], rest) := by
  rw [quoted.eq_def]
  rfl

theorem quoted_backslash (b : UInt8) (rest : Bytes) :
    quoted (backslash :: b :: rest)
      = (quoted rest).map fun (value, left) => (b :: value, left) := by
  rw [quoted.eq_def]
  rfl

theorem quoted_other {b : UInt8} (hquote : b ≠ quote) (hbackslash : b ≠ backslash) (rest : Bytes) :
    quoted (b :: rest) = (quoted rest).map fun (value, left) => (b :: value, left) := by
  rw [quoted.eq_def]
  simp only [if_neg hquote, if_neg hbackslash]

/-- The value of a hexadecimal digit. -/
def digit? (b : UInt8) : Option Nat := Text.hexValue? (Char.ofNat b.toNat)

/-- The bytes that pairs of hexadecimal digits stand for. -/
def hexPairs : Bytes → Option Bytes
  | [] => some []
  | [_] => none
  | high :: low :: rest => do
    let h ← digit? high
    let l ← digit? low
    return UInt8.ofNat (16 * h + l) :: (← hexPairs rest)

/-- What a literal without quotes stands for in a column with a tag. -/
def word (tag : TypeTag) (literal : Bytes) : Option Cell :=
  if literal = Text.utf8 "NULL" then some none
  else if tag = .blob then do return some (← hexPairs (← literal.dropPrefix? (Text.utf8 "0x")))
  else some (some literal)

/-- Whether a byte ends a literal without quotes: a comma or a closing parenthesis. -/
def isBreak (b : UInt8) : Bool := b == 0x2C || b == 0x29

/-- The cell of the literal that bytes open with, and what follows. -/
def cell (tag : TypeTag) : Bytes → Option (Cell × Bytes)
  | [] => none
  | b :: rest =>
    if b = quote then (quoted rest).map fun (value, left) => (some value, left)
    else (word tag ((b :: rest).takeWhile (!isBreak ·))).map fun value =>
      (value, (b :: rest).dropWhile (!isBreak ·))

/-- One cell for each tag, with commas between them, and what follows. -/
def cells : List TypeTag → Bytes → Option (Row × Bytes)
  | [], bytes => some ([], bytes)
  | [tag], bytes => (cell tag bytes).map fun (value, left) => ([value], left)
  | tag :: next :: tags, bytes => do
    match ← cell tag bytes with
    | (value, 0x2C :: left) =>
      let (row, left) ← cells (next :: tags) left
      return (value :: row, left)
    | _ => none

/-- The row of the tuple that bytes open with, and what follows. -/
def tuple (tags : List TypeTag) : Bytes → Option (Row × Bytes)
  | 0x28 :: rest => do
    match ← cells tags rest with
    | (row, 0x29 :: left) => return (row, left)
    | _ => none
  | _ => none

/-! ## Reading comes to an end -/

/-- A reading whose value was changed left what the reading itself left. -/
theorem exists_read {α β : Type} {f : α → β} {read : Option (α × Bytes)} {b : β} {left : Bytes}
    (h : (read.map fun (value, left) => (f value, left)) = some (b, left)) :
    ∃ value, read = some (value, left) := by
  obtain ⟨⟨value, left'⟩, hread, heq⟩ := Option.map_eq_some_iff.mp h
  cases heq
  exact ⟨value, hread⟩

theorem length_lt_of_quoted {bytes value left : Bytes} (h : quoted bytes = some (value, left)) :
    left.length < bytes.length := by
  fun_induction quoted bytes generalizing value with
  | case1 => cases h
  | case2 rest =>
    cases h
    simp
  | case3 => cases h
  | case4 c rest hquote ih =>
    obtain ⟨value', hread⟩ := exists_read h
    have := ih hread
    simp only [List.length_cons]
    omega
  | case5 b rest hquote hbackslash ih =>
    obtain ⟨value', hread⟩ := exists_read h
    have := ih hread
    simp only [List.length_cons]
    omega

theorem length_le_of_cell {tag : TypeTag} {bytes left : Bytes} {value : Cell}
    (h : cell tag bytes = some (value, left)) : left.length ≤ bytes.length := by
  unfold cell at h
  split at h
  · cases h
  · rename_i b rest
    split at h
    · obtain ⟨text, hread⟩ := exists_read h
      have := length_lt_of_quoted hread
      simp only [List.length_cons]
      omega
    · obtain ⟨value', -, heq⟩ := Option.map_eq_some_iff.mp h
      cases heq
      exact (List.dropWhile_suffix _).length_le

theorem length_le_of_cells {tags : List TypeTag} {bytes left : Bytes} {row : Row}
    (h : cells tags bytes = some (row, left)) : left.length ≤ bytes.length := by
  fun_induction cells tags bytes generalizing row left with
  | case1 bytes =>
    cases h
    exact le_rfl
  | case2 tag bytes =>
    obtain ⟨value, hread⟩ := exists_read (f := fun value => [value]) h
    exact length_le_of_cell hread
  | case3 tag next tags bytes ih =>
    obtain ⟨⟨value, after⟩, hcell, h⟩ := Option.bind_eq_some_iff.mp h
    split at h
    · rename_i value' after' heq
      cases heq
      obtain ⟨⟨row', left'⟩, hcells, h⟩ := Option.bind_eq_some_iff.mp h
      cases h
      have h₁ := length_le_of_cell hcell
      have h₂ := ih _ hcells
      simp only [List.length_cons] at h₁
      omega
    · cases h

theorem length_lt_of_tuple {tags : List TypeTag} {bytes left : Bytes} {row : Row}
    (h : tuple tags bytes = some (row, left)) : left.length < bytes.length := by
  unfold tuple at h
  split at h
  · obtain ⟨⟨row', after⟩, hcells, h⟩ := Option.bind_eq_some_iff.mp h
    split at h
    · rename_i row'' after' heq
      cases heq
      cases h
      have := length_le_of_cells hcells
      simp only [List.length_cons] at this ⊢
      omega
    · cases h
  · cases h

/-- Tuples with commas between them, as many as there are, and what follows. -/
def tuples (tags : List TypeTag) (bytes : Bytes) : Option (List Row × Bytes) :=
  match _ : tuple tags bytes with
  | none => none
  | some (row, 0x2C :: left) =>
    (tuples tags left).map fun (rows, left) => (row :: rows, left)
  | some (row, left) => some ([row], left)
termination_by bytes.length
decreasing_by
  have := length_lt_of_tuple ‹_›
  simp only [List.length_cons] at this
  omega

theorem tuples_of_comma {tags : List TypeTag} {bytes left : Bytes} {row : Row}
    (h : tuple tags bytes = some (row, 0x2C :: left)) :
    tuples tags bytes = (tuples tags left).map fun (rows, left) => (row :: rows, left) := by
  rw [tuples]
  split
  · rename_i hnone
    rw [h] at hnone
    cases hnone
  · rename_i row' left' hsome
    rw [h] at hsome
    cases hsome
    rfl
  · rename_i row' left' hnot hsome
    rw [h] at hsome
    cases hsome
    exact absurd rfl (hnot left)

theorem tuples_of_last {tags : List TypeTag} {bytes left : Bytes} {row : Row}
    (h : tuple tags bytes = some (row, left)) (hleft : left.head? ≠ some 0x2C) :
    tuples tags bytes = some ([row], left) := by
  rw [tuples]
  split
  · rename_i hnone
    rw [h] at hnone
    cases hnone
  · rename_i row' left' hsome
    rw [h] at hsome
    cases hsome
    exact absurd rfl hleft
  · rename_i row' left' hnot hsome
    rw [h] at hsome
    cases hsome
    rfl

theorem length_lt_of_tuples {tags : List TypeTag} {bytes left : Bytes} {rows : List Row}
    (h : tuples tags bytes = some (rows, left)) : left.length < bytes.length := by
  fun_induction tuples tags bytes generalizing rows with
  | case1 => cases h
  | case2 bytes row after hread ih =>
    obtain ⟨rows', hrest⟩ := exists_read h
    have h₁ := length_lt_of_tuple hread
    have h₂ := ih hrest
    simp only [List.length_cons] at h₁
    omega
  | case3 bytes row after hnot hread =>
    cases h
    exact length_lt_of_tuple hread

theorem length_le_of_dropPrefix? {bytes front left : Bytes}
    (h : bytes.dropPrefix? front = some left) : left.length ≤ bytes.length := by
  obtain ⟨front', rfl, -⟩ := List.dropPrefix?_eq_some_iff.mp h
  simp

/-- The rows of the statement that bytes open with, and what follows. -/
def statement (table : String) (tags : List TypeTag) (bytes : Bytes) :
    Option (List Row × Bytes) := do
  let (rows, left) ← tuples tags (← bytes.dropPrefix? (Insert.opening table))
  return (rows, ← left.dropPrefix? Insert.closing)

theorem length_lt_of_statement {table : String} {tags : List TypeTag} {bytes left : Bytes}
    {rows : List Row} (h : statement table tags bytes = some (rows, left)) :
    left.length < bytes.length := by
  obtain ⟨opened, hopened, h⟩ := Option.bind_eq_some_iff.mp h
  obtain ⟨⟨rows', after⟩, hread, h⟩ := Option.bind_eq_some_iff.mp h
  obtain ⟨closed, hclosed, heq⟩ := Option.bind_eq_some_iff.mp h
  cases heq
  have h₁ := length_le_of_dropPrefix? hopened
  have h₂ := length_lt_of_tuples hread
  have h₃ := length_le_of_dropPrefix? hclosed
  omega

/-- The rows of a table: those of its statements, up to the blank lines after them. -/
def table (name : String) (tags : List TypeTag) (bytes : Bytes) : Option (List Row) :=
  if bytes = Sql.Statement.endOfRows.bytes then some []
  else match _ : statement name tags bytes with
    | none => none
    | some (rows, left) => (table name tags left).map (rows ++ ·)
termination_by bytes.length
decreasing_by exact length_lt_of_statement ‹_›

/-! ## What can be read back -/

/-- Whether a byte is a letter, a digit, a sign or a point. -/
def isPlain (b : UInt8) : Bool :=
  isDigitByte b || (0x41 ≤ b && b ≤ 0x5A) || (0x61 ≤ b && b ≤ 0x7A)
    || b == 0x2B || b == 0x2D || b == 0x2E

/--
Whether a cell of a column can be read back. Texts and bytes can, whatever they hold.
What is written as it came must be plain, and where nothing else marks it as a value
it must not be empty or look like a cell that holds nothing.
-/
def Readable (tag : TypeTag) : Cell → Prop
  | none => True
  | some value =>
    match tag with
    | .integer | .double | .boolean =>
      value ≠ [] ∧ value ≠ Text.utf8 "NULL" ∧ value.all isPlain
    | .float => value.all isPlain
    | .bit | .vector => False
    | .blob | .json | .text | .char | .varchar | .unknown | .other => True

instance (tag : TypeTag) (cell : Cell) : Decidable (Readable tag cell) :=
  match tag, cell with
  | _, none => isTrue trivial
  | .integer, some value | .double, some value | .boolean, some value =>
    inferInstanceAs (Decidable (value ≠ [] ∧ value ≠ Text.utf8 "NULL" ∧ value.all isPlain))
  | .float, some value => inferInstanceAs (Decidable (value.all isPlain = true))
  | .bit, some _ | .vector, some _ => isFalse id
  | .blob, some _ | .json, some _ | .text, some _ | .char, some _ | .varchar, some _
  | .unknown, some _ | .other, some _ => isTrue trivial

theorem isPlain_ne {b c : UInt8} (h : isPlain b) (hc : isPlain c = false) : b ≠ c := by
  rintro rfl
  rw [h] at hc
  exact absurd hc (by decide)

theorem not_isBreak_of_isPlain {b : UInt8} (h : isPlain b) : isBreak b = false := by
  simp only [isBreak, Bool.or_eq_false_iff, beq_eq_false_iff_ne]
  exact ⟨isPlain_ne h (by decide), isPlain_ne h (by decide)⟩

/-! ## Literals -/

/-- **A quoted text is read whole**, and reading stops at its closing quote. -/
theorem quoted_escaped (value rest : Bytes) :
    quoted (value.flatMap escapedByte ++ quote :: rest) = some (value, rest) := by
  induction value with
  | nil => exact quoted_quote rest
  | cons b value ih =>
    rw [List.flatMap_cons, List.append_assoc]
    by_cases hescaped : b = quote ∨ b = backslash
    · rw [escapedByte, if_pos hescaped, List.cons_append, List.singleton_append, quoted_backslash,
        ih]
      rfl
    · obtain ⟨hquote, hbackslash⟩ := not_or.mp hescaped
      rw [escapedByte, if_neg hescaped, List.singleton_append, quoted_other hquote hbackslash, ih]
      rfl

/-- Plain bytes need no escaping. -/
theorem flatMap_escapedByte_of_plain {value : Bytes} (h : value.all isPlain) :
    value.flatMap escapedByte = value := by
  induction value with
  | nil => rfl
  | cons b value ih =>
    obtain ⟨hb, hvalue⟩ := Bool.and_eq_true_iff.mp h
    have hne : ¬(b = quote ∨ b = backslash) :=
      not_or.mpr ⟨isPlain_ne hb (by decide), isPlain_ne hb (by decide)⟩
    rw [List.flatMap_cons, escapedByte, if_neg hne, ih hvalue]
    rfl

theorem cell_quotedText (tag : TypeTag) (value rest : Bytes) :
    cell tag (quotedText value ++ rest) = some (some value, rest) := by
  rw [quotedText, List.cons_append, List.cons_append, List.append_assoc, cell, if_pos rfl,
    List.singleton_append, quoted_escaped]
  rfl

/-- A literal without quotes is read up to the break after it. -/
theorem cell_bare (tag : TypeTag) {literal : Bytes} (hne : literal ≠ [])
    (hbare : ∀ b ∈ literal, b ≠ quote ∧ isBreak b = false) {stop : UInt8}
    (hstop : isBreak stop) (rest : Bytes) :
    cell tag (literal ++ stop :: rest)
      = (word tag literal).map fun value => (value, stop :: rest) := by
  obtain ⟨b, literal, rfl⟩ := List.exists_cons_of_ne_nil hne
  have hall : ∀ c ∈ b :: literal, (!isBreak c) = true := by
    intro c hc
    rw [(hbare c hc).2]
    rfl
  rw [List.cons_append, cell, if_neg (hbare b (by simp)).1, ← List.cons_append,
    List.takeWhile_append_of_pos hall, List.dropWhile_append_of_pos hall]
  simp [hstop]

theorem digit?_hexDigit : ∀ d < 16, digit? (Text.hexDigit .upper d).toNat.toUInt8 = some d := by
  decide

theorem hexBytes_cons (b : UInt8) (value : Bytes) :
    hexBytes (b :: value)
      = (Text.hexDigit .upper (b.toNat / 16)).toNat.toUInt8
        :: (Text.hexDigit .upper (b.toNat % 16)).toNat.toUInt8 :: hexBytes value := by
  have hsmall : b.toNat / 16 % 16 = b.toNat / 16 := by
    have := b.toNat_lt
    omega
  simp [hexBytes, Text.hexDigits, hsmall]

/-- The digits of bytes are read back in pairs. -/
theorem hexPairs_hexBytes (value : Bytes) : hexPairs (hexBytes value) = some value := by
  induction value with
  | nil => rfl
  | cons b value ih =>
    have hhigh : b.toNat / 16 < 16 := by
      have := b.toNat_lt
      omega
    have hlow : b.toNat % 16 < 16 := Nat.mod_lt _ (by decide)
    have hb : UInt8.ofNat (16 * (b.toNat / 16) + b.toNat % 16) = b := by
      rw [Nat.div_add_mod, UInt8.ofNat_toNat]
    rw [hexBytes_cons, hexPairs, digit?_hexDigit _ hhigh, digit?_hexDigit _ hlow, ih]
    exact congrArg (fun c => some (c :: value)) hb

theorem all_isPlain_hexBytes (value : Bytes) : (hexBytes value).all isPlain := by
  have hdigit : ∀ d < 16, isPlain (Text.hexDigit .upper d).toNat.toUInt8 := by decide
  induction value with
  | nil => rfl
  | cons b value ih =>
    have hhigh : b.toNat / 16 < 16 := by
      have := b.toNat_lt
      omega
    have hlow : b.toNat % 16 < 16 := Nat.mod_lt _ (by decide)
    rw [hexBytes_cons, List.all_cons, List.all_cons, hdigit _ hhigh, hdigit _ hlow, ih]
    rfl

section

variable {tag : TypeTag} {stop : UInt8} (hstop : isBreak stop) (rest : Bytes)
include hstop

theorem cell_plain {literal : Bytes} (hne : literal ≠ []) (hplain : literal.all isPlain) :
    cell tag (literal ++ stop :: rest)
      = (word tag literal).map fun value => (value, stop :: rest) := by
  refine cell_bare tag hne (fun b hb => ?_) hstop rest
  have hb' : isPlain b := List.all_eq_true.mp hplain b hb
  exact ⟨isPlain_ne hb' (by decide), not_isBreak_of_isPlain hb'⟩

/-! One lemma for each form of a literal that a cell may have. -/

theorem cell_null : cell tag (Text.utf8 "NULL" ++ stop :: rest) = some (none, stop :: rest) := by
  rw [cell_plain hstop rest (by decide) (by decide), word, if_pos rfl]
  rfl

/-- Plain bytes that stand as they are, in a column without hexadecimal literals. -/
theorem cell_value {value : Bytes} (htag : tag ≠ .blob) (hne : value ≠ [])
    (hnull : value ≠ Text.utf8 "NULL") (hplain : value.all isPlain) :
    cell tag (value ++ stop :: rest) = some (some value, stop :: rest) := by
  rw [cell_plain hstop rest hne hplain, word, if_neg hnull, if_neg htag]
  rfl

theorem cell_floatLiteral {value : Bytes} (htag : tag ≠ .blob) (hplain : value.all isPlain) :
    cell tag (floatLiteral value ++ stop :: rest) = some (some value, stop :: rest) := by
  by_cases hnumber : opensAsNumber value
  · have hne : value ≠ [] := by
      rintro rfl
      exact absurd hnumber (by decide)
    have hnull : value ≠ Text.utf8 "NULL" := by
      rintro rfl
      exact absurd hnumber (by decide)
    rw [floatLiteral, if_pos hnumber]
    exact cell_value hstop rest htag hne hnull hplain
  · have hquoted : quote :: value ++ [quote] = quotedText value := by
      rw [quotedText, flatMap_escapedByte_of_plain hplain]
    rw [floatLiteral, if_neg hnumber, hquoted, cell_quotedText]

theorem cell_blobLiteral (value : Bytes) :
    cell .blob (blobLiteral value ++ stop :: rest) = some (some value, stop :: rest) := by
  -- no bytes are written as a quoted text, since 0x without digits is no literal
  by_cases hempty : value = []
  · subst hempty
    exact cell_quotedText .blob [] (stop :: rest)
  · have hliteral : blobLiteral value = Text.utf8 "0x" ++ hexBytes value := by
      rw [blobLiteral, if_neg (by simpa using hempty)]
    have hplain : (blobLiteral value).all isPlain := by
      have hmark : (Text.utf8 "0x").all isPlain := by decide
      rw [hliteral, List.all_append, hmark, all_isPlain_hexBytes]
      rfl
    have hne : blobLiteral value ≠ [] := by
      rw [hliteral]
      exact List.cons_ne_nil _ _
    have hnull : blobLiteral value ≠ Text.utf8 "NULL" := by
      rw [hliteral]
      intro h
      exact absurd (List.cons.inj h).1 (by decide)
    rw [cell_plain hstop rest hne hplain, word, if_neg hnull, if_pos rfl, hliteral,
      List.dropPrefix?_append_of_beq _ (BEq.rfl)]
    simp [hexPairs_hexBytes]

theorem cell_truthOrText {value : Bytes} (htag : tag ≠ .blob) :
    cell tag (truthOrText value ++ stop :: rest) = some (some value, stop :: rest) := by
  by_cases htruth : value = Text.utf8 "true" ∨ value = Text.utf8 "false"
  · rw [truthOrText, if_pos htruth]
    rcases htruth with rfl | rfl
    · exact cell_value hstop rest htag (by decide) (by decide) (by decide)
    · exact cell_value hstop rest htag (by decide) (by decide) (by decide)
  · rw [truthOrText, if_neg htruth, cell_quotedText]

/-- **Every literal is read back as the cell it was written for.** -/
theorem cell_literal {value : Cell} (h : Readable tag value) :
    cell tag (literal tag value ++ stop :: rest) = some (value, stop :: rest) := by
  cases value with
  | none => exact cell_null hstop rest
  | some value =>
    cases tag with
    | integer | double | boolean => exact cell_value hstop rest (by decide) h.1 h.2.1 h.2.2
    | float => exact cell_floatLiteral hstop rest (by decide) h
    | blob => exact cell_blobLiteral hstop rest value
    | bit | vector => exact h.elim
    | json | text | char | other => exact cell_quotedText _ value _
    | varchar | unknown => exact cell_truthOrText hstop rest (by decide)

end

/-! ## From cells to tables -/

theorem commaSeparated_cons_cons (first second : Bytes) (rest : List Bytes) :
    commaSeparated (first :: second :: rest)
      = first ++ 0x2C :: commaSeparated (second :: rest) := by
  simp [commaSeparated, List.intercalate]

/-- **The cells of a row are read back one after the other.** -/
theorem cells_row {tags : List TypeTag} {row : Row} (h : List.Forall₂ Readable tags row)
    (rest : Bytes) :
    cells tags (commaSeparated (List.zipWith literal tags row) ++ 0x29 :: rest)
      = some (row, 0x29 :: rest) := by
  induction h with
  | nil => rfl
  | @cons tag value tags row hvalue hrow ih =>
    cases hrow with
    | nil =>
      have hcell : cell tag (literal tag value ++ 0x29 :: rest) = some (value, 0x29 :: rest) :=
        cell_literal (by decide) rest hvalue
      simp only [List.zipWith, commaSeparated, List.intercalate, List.intersperse,
        List.flatten_cons, List.flatten_nil, List.append_nil, cells, hcell, Option.map_some]
    | @cons next value' tags row hvalue' hrow =>
      -- the comma is a break, so the cell in front of it ends there whatever comes next
      have hcell (after : Bytes) :
          cell tag (literal tag value ++ 0x2C :: after) = some (value, 0x2C :: after) :=
        cell_literal (by decide) after hvalue
      rw [List.zipWith_cons_cons, List.zipWith_cons_cons, commaSeparated_cons_cons,
        List.append_assoc, List.cons_append, ← List.zipWith_cons_cons, cells, hcell]
      simp only [Option.bind_eq_bind, Option.bind_some, ih, Option.pure_def]

theorem tuple_row {tags : List TypeTag} {row : Row} (h : List.Forall₂ Readable tags row)
    (rest : Bytes) : tuple tags (Sql.tuple tags row ++ rest) = some (row, rest) := by
  rw [Sql.tuple, List.cons_append, List.cons_append, List.append_assoc, List.singleton_append,
    tuple, cells_row h]
  rfl

/-- The tuples of a statement are read back up to its end. -/
theorem tuples_group {tags : List TypeTag} {group : List Row} (hne : group ≠ [])
    (h : ∀ row ∈ group, List.Forall₂ Readable tags row) {rest : Bytes}
    (hrest : rest.head? ≠ some 0x2C) :
    tuples tags (commaSeparated (group.map (Sql.tuple tags)) ++ rest) = some (group, rest) := by
  induction group with
  | nil => exact absurd rfl hne
  | cons row group ih =>
    have hrow := h row (by simp)
    cases group with
    | nil =>
      have hone : commaSeparated ([row].map (Sql.tuple tags)) = Sql.tuple tags row := by
        simp [commaSeparated, List.intercalate]
      rw [hone]
      exact tuples_of_last (tuple_row hrow rest) hrest
    | cons next group =>
      have hrows := ih (by simp) fun row hrow => h row (List.mem_cons_of_mem _ hrow)
      rw [List.map_cons, List.map_cons, commaSeparated_cons_cons, List.append_assoc,
        List.cons_append, ← List.map_cons, tuples_of_comma (tuple_row hrow _), hrows]
      rfl

theorem statement_group {table : String} {tags : List TypeTag} {group : List Row} (hne : group ≠ [])
    (h : ∀ row ∈ group, List.Forall₂ Readable tags row) (rest : Bytes) :
    statement table tags (Insert.statementOf table (Sql.tuple tags) group ++ rest)
      = some (group, rest) := by
  have hclosing : Insert.closing = [0x3B, 0x0A] := by decide
  have hstop : (Insert.closing ++ rest).head? ≠ some 0x2C := by
    rw [hclosing]
    simp
  have hrows := tuples_group hne h hstop
  rw [Insert.statementOf, Insert.statement, List.append_assoc, List.append_assoc, statement,
    List.dropPrefix?_append_of_beq _ BEq.rfl]
  simp only [Option.bind_eq_bind, Option.bind_some, hrows,
    List.dropPrefix?_append_of_beq rest (BEq.rfl : Insert.closing == Insert.closing)]
  rfl

/-- A statement does not open like the blank lines that end a table. -/
theorem statementOf_append_ne_endOfRows {α : Type} (table : String) (encode : α → Bytes)
    (group : List α) (rest : Bytes) :
    Insert.statementOf table encode group ++ rest ≠ Sql.Statement.endOfRows.bytes := by
  have hopening : (Insert.opening table).head? = some 0x49 := by
    have hword : Text.utf8 "INSERT INTO `" = 0x49 :: Text.utf8 "NSERT INTO `" := by decide
    rw [Insert.opening, Text.utf8_append, Text.utf8_append, hword]
    rfl
  obtain ⟨tail, htail⟩ := List.head?_eq_some_iff.mp hopening
  -- the first byte is a letter on one side and a newline on the other
  intro h
  rw [Insert.statementOf, Insert.statement, htail] at h
  exact absurd (List.cons.inj h).1 (by decide)

/-- **The statements of a table are read back**, however its rows were cut into groups. -/
theorem table_groups {name : String} {tags : List TypeTag} {groups : List (List Row)}
    (hne : ∀ group ∈ groups, group ≠ [])
    (h : ∀ row ∈ groups.flatten, List.Forall₂ Readable tags row) :
    table name tags (groups.flatMap (Insert.statementOf name (Sql.tuple tags))
        ++ Sql.Statement.endOfRows.bytes) = some groups.flatten := by
  -- on the groups: one statement is read off the front, and the rest is a table with fewer of them
  induction groups with
  | nil => rw [List.flatMap_nil, List.nil_append, table, if_pos rfl, List.flatten_nil]
  | cons group groups ih =>
    have hgroup (rest : Bytes) :
        statement name tags (Insert.statementOf name (Sql.tuple tags) group ++ rest)
          = some (group, rest) :=
      statement_group (hne group (by simp))
        (fun row hrow => h row (List.mem_flatten_of_mem (by simp) hrow)) rest
    have hrest := ih (fun g hg => hne g (List.mem_cons_of_mem _ hg))
      (fun row hrow => h row (List.mem_append_right _ hrow))
    rw [List.flatMap_cons, List.append_assoc, table,
      if_neg (statementOf_append_ne_endOfRows name _ group _)]
    split
    · rename_i hnone
      rw [hgroup] at hnone
      cases hnone
    · rename_i rows left hsome
      rw [hgroup] at hsome
      cases hsome
      rw [hrest]
      rfl

end DatabaseDump.Sql.Reader

namespace DatabaseDump.Dump.Inserts

open Sql Work

/--
**Whatever rows are written, they are read back.**

The reader gets the name of the table, the tags of its columns and the bytes that were
added to the output. It does not get the budget, and neither does what it finds depend
on it.
-/
theorem writeTable_reads_back (budget : Int) (table : Value) (columns : List Column)
    (rows : List Row) (session : Session)
    (h : ∀ row ∈ rows, List.Forall₂ Reader.Readable (columns.map Column.tag) row) :
    ∃ (stats : TableStats) (written : List Statement) (after : Session),
      start (writeTable (.bytes budget) table columns ⟨rows, none⟩) session = (.ok stats, after)
      ∧ after.output = session.output ++ written
      ∧ Reader.table table.toText (columns.map Column.tag) (written.flatMap Statement.bytes)
        = some rows := by
  obtain ⟨groups, hgreedy, hrun⟩ := exists_start_writeTable budget table columns rows session
  refine ⟨_, _, _, hrun, rfl, ?_⟩
  have hread : Reader.table table.toText (columns.map Column.tag)
      (groups.flatMap (Insert.statementOf table.toText (Sql.tuple (columns.map Column.tag)))
        ++ Statement.endOfRows.bytes) = some groups.flatten :=
    Reader.table_groups hgreedy.nonempty (by rwa [hgreedy.flatten])
  rw [hgreedy.flatten] at hread
  rw [List.flatMap_append, List.flatMap_map, List.flatMap_singleton]
  exact hread

/--
Rows that try to end a literal, a tuple, a statement or the table early, and cells that
look like others: a text and a word that look like nothing, a truth value, no bytes at
all, a number that is none. The budget lets no two of them share a statement.
-/
theorem writeTable_reads_back_hostile_rows :
    let tags : List TypeTag := [.varchar, .blob, .float, .integer]
    let columns := tags.map fun tag => (⟨.text "c", "", tag⟩ : Column)
    let rows : List Row :=
      [[some (Text.utf8 "');\n\n\n\nINSERT INTO `a`'` VALUES ('\\"), some [0x00, 0xFF],
          some (Text.utf8 "NaN"), some (Text.utf8 "-12")],
       [some (Text.utf8 "NULL"), some [], some [], none],
       [some (Text.utf8 "true"), none, some (Text.utf8 "-1.5e+3"), some (Text.utf8 "0x41")]]
    (∀ row ∈ rows, List.Forall₂ Reader.Readable (columns.map Column.tag) row)
    ∧ ∃ (stats : TableStats) (written : List Statement) (after : Session),
      start (writeTable (.bytes 0) (.text "a`'") columns ⟨rows, none⟩) { folder := { base := [] } }
        = (.ok stats, after)
      ∧ after.output = written
      ∧ Reader.table "a`'" (columns.map Column.tag) (written.flatMap Statement.bytes)
        = some rows := by
  intro tags columns rows
  have h : ∀ row ∈ rows, List.Forall₂ Reader.Readable (columns.map Column.tag) row := by decide
  exact ⟨h, writeTable_reads_back 0 (.text "a`'") columns rows _ h⟩

end DatabaseDump.Dump.Inserts
