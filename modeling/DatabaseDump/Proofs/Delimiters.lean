import DatabaseDump.Proofs.CsvReader
import DatabaseDump.Proofs.TableRows
import Mathlib.Data.Set.Function

/-!
# Delimiters that keep records apart

A delimiter may be any character, also one that means something to side files itself. As long as
it is neither the newline nor the double quote, the records are read back, so different ones
are written differently. The other two take arguments of their own.

A newline makes every field a line. Where one record ends and the next one begins can no longer be
seen, but when all records have the same number of fields, it is enough to count:
`exists_field_lines`. The same is true of records of one field, whatever the delimiter is.

A double quote looks like the quotes around a field. Then a quoted field and an empty one have
the same text in both orders, so from two fields on different records get lost.
-/

namespace DatabaseDump.Csv

open Text (Symbol bytesOf IsRead)
open Reader

variable {delimiter : Char}

/-- Lists of records that have a number of fields each. -/
def recordsOf (count : Nat) : Set (List (List (List Symbol))) :=
  {found | ∀ fields ∈ found, fields.length = count}

/-- Those of them whose fields were read from bytes. -/
def readableRecordsOf (count : Nat) : Set (List (List (List Symbol))) :=
  {found | found ∈ recordsOf count ∧ ∀ fields ∈ found, ∀ field ∈ fields, IsRead field}

/-! ## One field a line -/

/-- Texts with newlines between them and one at the end are lines. -/
theorem intercalate_newline {texts : List (List Symbol)} (hne : texts ≠ []) :
    List.intercalate [newline] texts ++ [newline] = texts.flatMap (· ++ [newline]) := by
  induction texts with
  | nil => exact absurd rfl hne
  | cons text texts ih =>
    cases texts with
    | nil => simp
    | cons next texts =>
      have hrest := ih (List.cons_ne_nil next texts)
      rw [List.intercalate_cons_cons, List.append_assoc, hrest]
      rfl

/-- A record of one field is a line, and newlines between fields make each of them a line. -/
theorem exists_field_lines_record {fields : List (List Symbol)} (hne : fields ≠ [])
    (hlines : delimiter = '\n' ∨ fields.length = 1) :
    ∃ texts : List (List Symbol), record delimiter fields = texts.flatMap (· ++ [newline])
      ∧ (∀ text ∈ texts, IsWhole newline text) ∧ texts.map unquoted = fields := by
  obtain ⟨write, hwrite, hrecord⟩ := exists_record_eq delimiter fields
  refine ⟨fields.map write, ?_, ?_, ?_⟩
  · rw [hrecord]
    rcases hlines with rfl | hone
    · exact intercalate_newline (by simpa using hne)
    · obtain ⟨field, rfl⟩ := List.length_eq_one_iff.mp hone
      simp
  · intro text htext
    obtain ⟨field, -, rfl⟩ := List.mem_map.mp htext
    exact (hwrite field).isWhole (by decide) (by simp [forcesQuotes, newline])
  · rw [List.map_map]
    exact List.map_id'' (fun field => (hwrite field).unquoted_eq) fields

theorem exists_field_lines {found : List (List (List Symbol))}
    (hne : ∀ fields ∈ found, fields ≠ [])
    (hlines : delimiter = '\n' ∨ ∀ fields ∈ found, fields.length = 1) :
    ∃ texts : List (List Symbol), content delimiter found = texts.flatMap (· ++ [newline])
      ∧ (∀ text ∈ texts, IsWhole newline text) ∧ texts.map unquoted = found.flatten := by
  induction found with
  | nil => exact ⟨[], rfl, by simp, rfl⟩
  | cons fields found ih =>
    obtain ⟨hfields, hfound⟩ := List.forall_mem_cons.mp hne
    obtain ⟨front, hrecord, hfront, hunquoted⟩ := exists_field_lines_record hfields
      (hlines.imp_right fun h => h fields List.mem_cons_self)
    obtain ⟨back, hcontent, hback, hrest⟩ := ih hfound
      (hlines.imp_right fun h f hf => h f (List.mem_cons_of_mem _ hf))
    refine ⟨front ++ back, ?_, ?_, ?_⟩
    · rw [content, List.flatMap_cons, hrecord, List.flatMap_append, ← hcontent]
      rfl
    · exact List.forall_mem_append.mpr ⟨hfront, hback⟩
    · rw [List.map_append, hunquoted, hrest, List.flatten_cons]

/-- **When every field is a line, the lines are the fields of all records.** -/
theorem map_unquoted_lines_content {found : List (List (List Symbol))}
    (hne : ∀ fields ∈ found, fields ≠ [])
    (hlines : delimiter = '\n' ∨ ∀ fields ∈ found, fields.length = 1) :
    (lines (content delimiter found)).map unquoted = found.flatten := by
  obtain ⟨texts, hcontent, hwhole, hfields⟩ := exists_field_lines hne hlines
  rw [hcontent, lines_flatMap hwhole, hfields]

/-- Equal numbers of fields determine the records from their fields. -/
theorem eq_of_flatten_eq {count : Nat} (hcount : count ≠ 0)
    {found found' : List (List (List Symbol))} (hfound : found ∈ recordsOf count)
    (hfound' : found' ∈ recordsOf count) (h : found.flatten = found'.flatten) : found = found' := by
  have hlengths : found.map List.length = List.replicate found.length count :=
    List.map_eq_replicate_iff.mpr hfound
  have hlengths' : found'.map List.length = List.replicate found'.length count :=
    List.map_eq_replicate_iff.mpr hfound'
  have htotal : found.length * count = found'.length * count := by
    have hflatten := congrArg List.length h
    rwa [List.length_flatten, List.length_flatten, hlengths, hlengths', List.sum_replicate_nat,
      List.sum_replicate_nat] at hflatten
  have hlength : found.length = found'.length :=
    Nat.eq_of_mul_eq_mul_right (Nat.pos_of_ne_zero hcount) htotal
  rw [List.eq_iff_flatten_eq, hlengths, hlengths', hlength]
  exact ⟨h, rfl⟩

/-! ## The double quote -/

/-- With a double quote between them, the order of a quoted field and an empty one is lost. -/
theorem record_quote_swap (fields : List (List Symbol)) :
    record '"' ([quote] :: [] :: fields) = record '"' ([] :: [quote] :: fields) := by
  have hquoted : writtenField '"' [quote] = [quote, quote, quote, quote] := rfl
  have hempty : writtenField '"' [] = [] := rfl
  have hfirst : ([quote] :: [] :: fields : List (List Symbol)) ≠ [[]] := by simp
  have hsecond : ([] :: [quote] :: fields : List (List Symbol)) ≠ [[]] := by simp
  rw [record, record, if_neg hfirst, if_neg hsecond]
  simp only [List.map_cons, hquoted, hempty]
  cases fields with
  | nil => rfl
  | cons field fields => rfl

/-- So from two fields on different lists of records have the same content. -/
theorem exists_content_eq (count : Nat) (hcount : 1 < count) :
    ∃ found ∈ readableRecordsOf count, ∃ found' ∈ readableRecordsOf count,
      found ≠ found' ∧ content '"' found = content '"' found' := by
  obtain ⟨more, rfl⟩ := Nat.exists_eq_add_of_le' hcount
  have hempty : IsRead [] := .nil
  have hquote : IsRead [quote] := .char '"' .nil
  refine ⟨[[quote] :: [] :: List.replicate more []], ?_,
    [[] :: [quote] :: List.replicate more []], ?_, ?_, ?_⟩
  · simp [readableRecordsOf, recordsOf, hempty, hquote]
  · simp [readableRecordsOf, recordsOf, hempty, hquote]
  · simp
  · rw [content, content, List.flatMap_singleton, List.flatMap_singleton, record_quote_swap]

/-! ## Which delimiters keep records apart -/

theorem injOn_content {count : Nat} (hcount : count ≠ 0) (h : delimiter ≠ '"' ∨ count = 1) :
    Set.InjOn (content delimiter) (recordsOf count) := by
  intro found hfound found' hfound' hcontent
  have hne {l : List (List (List Symbol))} (hl : l ∈ recordsOf count) :
      ∀ fields ∈ l, fields ≠ [] := by
    intro fields hfields
    rw [← List.length_pos_iff, hl fields hfields]
    exact Nat.pos_of_ne_zero hcount
  by_cases hread : delimiter ≠ '"' ∧ delimiter ≠ '\n'
  · -- what can be read back was written from one list only
    rw [← records_content hread.1 hread.2 (hne hfound), hcontent,
      records_content hread.1 hread.2 (hne hfound')]
  · -- otherwise fields are lines, and lines are counted
    have hlines {l : List (List (List Symbol))} (hl : l ∈ recordsOf count) :
        delimiter = '\n' ∨ ∀ fields ∈ l, fields.length = 1 := by
      rcases h with hquote | rfl
      · exact .inl (not_not.mp fun hnewline => hread ⟨hquote, hnewline⟩)
      · exact .inr hl
    refine eq_of_flatten_eq hcount hfound hfound' ?_
    rw [← map_unquoted_lines_content (hne hfound) (hlines hfound), hcontent,
      map_unquoted_lines_content (hne hfound') (hlines hfound')]

theorem ne_quote_or_eq_one_of_injOn {count : Nat} (hcount : count ≠ 0)
    (h : Set.InjOn (content delimiter) (readableRecordsOf count)) :
    delimiter ≠ '"' ∨ count = 1 := by
  by_contra hnot
  obtain ⟨hquote, hone⟩ := not_or.mp hnot
  obtain rfl := not_not.mp hquote
  obtain ⟨found, hfound, found', hfound', hne, hcontent⟩ :=
    exists_content_eq count (by omega)
  exact hne (h hfound hfound' hcontent)

/-- The contents differ, and so do the bytes of records whose fields are read from bytes. -/
theorem injOn_content_iff {count : Nat} (hcount : count ≠ 0) :
    (Set.InjOn (content delimiter) (recordsOf count) ↔ delimiter ≠ '"' ∨ count = 1)
    ∧ (Set.InjOn (fun found => bytesOf (content delimiter found)) (readableRecordsOf count)
      ↔ delimiter ≠ '"' ∨ count = 1) := by
  constructor
  · exact ⟨fun h => ne_quote_or_eq_one_of_injOn hcount (h.mono fun _ hfound => hfound.1),
      injOn_content hcount⟩
  · constructor
    · intro h
      refine ne_quote_or_eq_one_of_injOn hcount fun found hfound found' hfound' hcontent => ?_
      exact h hfound hfound' (congrArg bytesOf hcontent)
    · intro h found hfound found' hfound' hbytes
      refine injOn_content hcount h hfound.1 hfound'.1 ?_
      rw [← Text.symbols_bytesOf (isRead_content hfound.2),
        ← Text.symbols_bytesOf (isRead_content hfound'.2)]
      exact congrArg Text.symbols hbytes

/-- Encoded rows are such records, whatever bytes their cells hold. -/
theorem map_encodeRow_mem (escaper : Escaper) {tags : List TypeTag} {rows : List Row}
    (h : ∀ row ∈ rows, row.length = tags.length) :
    rows.map (escaper.encodeRow tags) ∈ readableRecordsOf tags.length := by
  constructor
  · intro fields hfields
    obtain ⟨row, hrow, rfl⟩ := List.mem_map.mp hfields
    exact length_encodeRow (h row hrow) escaper
  · intro fields hfields
    obtain ⟨row, -, rfl⟩ := List.mem_map.mp hfields
    exact isRead_encodeRow escaper tags row

end DatabaseDump.Csv

namespace DatabaseDump.Options

open Csv (Escaper content recordsOf readableRecordsOf)
open Text (bytesOf)

/-- Options that ask for side files have a delimiter that passed the check. -/
theorem exists_delimiter_of_ofSettings {settings : Fields} {options : Options}
    (h : ofSettings settings = .ok options) (hformat : options.format = .csv) :
    ∃ delimiter, options.delimiter = .text (String.singleton delimiter) := by
  obtain ⟨-, requested, -, hrequested, -, hdelimiter, hsettings⟩ := exists_of_ofSettings_ok h
  have hcsv : isOn settings "csv" = true := by
    by_contra hoff
    rw [if_neg hoff, hformat] at hsettings
    cases hsettings
  unfold requestedDelimiter at hrequested
  dsimp only at hrequested
  rw [if_pos hcsv] at hrequested
  obtain ⟨delimiter, -, hchecked⟩ := exists_of_bind_eq_ok hrequested
  rw [hdelimiter, ← Except.ok.inj hchecked]
  exact ⟨delimiter, rfl⟩

/--
**A delimiter that passes the check keeps records apart, unless it is the double quote and
the records have several fields.**

Options that ask for side files hold such a delimiter, and the writer takes it as it is. What
it encodes are records whose fields are read from bytes, so the bytes of its files tell them
apart as well.
-/
theorem delimiter_keeps_records_apart_iff (count : Nat) (hcount : count ≠ 0) :
    (∀ setting delimiter, delimiterOf setting = .ok delimiter →
      Dump.SideFile.delimiterChar setting = .ok delimiter
      ∧ (Set.InjOn (content delimiter) (recordsOf count) ↔ delimiter ≠ '"' ∨ count = 1)
      ∧ (Set.InjOn (fun found => bytesOf (content delimiter found)) (readableRecordsOf count)
        ↔ delimiter ≠ '"' ∨ count = 1))
    ∧ (∀ settings options, ofSettings settings = .ok options → options.format = .csv →
      ∃ delimiter, delimiterOf options.delimiter = .ok delimiter)
    ∧ ∀ (escaper : Escaper) (tags : List TypeTag) (rows : List Row), tags.length = count →
      (∀ row ∈ rows, row.length = count) →
      rows.map (escaper.encodeRow tags) ∈ readableRecordsOf count := by
  refine ⟨?_, ?_, ?_⟩
  · intro setting delimiter h
    obtain rfl := delimiterOf_eq_ok_iff.mp h
    exact ⟨Dump.SideFile.delimiterChar_singleton delimiter, Csv.injOn_content_iff hcount⟩
  · intro settings options h hformat
    obtain ⟨delimiter, hdelimiter⟩ := exists_delimiter_of_ofSettings h hformat
    exact ⟨delimiter, delimiterOf_eq_ok_iff.mpr hdelimiter⟩
  · rintro escaper tags rows rfl hrows
    exact Csv.map_encodeRow_mem escaper hrows

/-- Pairs can be told apart when a newline delimits them, and not when a double quote does. -/
theorem delimiter_keeps_records_apart_pairs :
    2 ≠ 0
    ∧ delimiterOf (.text (String.singleton '\n')) = .ok '\n'
    ∧ Set.InjOn (content '\n') (recordsOf 2)
    ∧ delimiterOf (.text (String.singleton '"')) = .ok '"'
    ∧ ¬ Set.InjOn (content '"') (recordsOf 2) := by
  have hnewline : delimiterOf (.text (String.singleton '\n')) = .ok '\n' := by decide
  have hquote : delimiterOf (.text (String.singleton '"')) = .ok '"' := by decide
  have hpairs := (delimiter_keeps_records_apart_iff 2 (by decide)).1
  refine ⟨by decide, hnewline, ?_, hquote, ?_⟩
  · exact (hpairs _ _ hnewline).2.1.mpr (.inl (by decide))
  · exact mt (hpairs _ _ hquote).2.1.mp (by decide)

/-- A double quote passes the check, but two records of two fields have the same content with it. -/
theorem quote_delimiter_confuses_records :
    delimiterOf (.text "\"") = .ok '"'
    ∧ [["\"", ""]] ≠ [["", "\""]]
    ∧ content '"' ([["\"", ""]].map (List.map Text.symbolsOfText))
      = content '"' ([["", "\""]].map (List.map Text.symbolsOfText))
    ∧ content '"' ([["", "\""]].map (List.map Text.symbolsOfText))
      = Text.symbolsOfText "\"\"\"\"\"\n" := by
  decide

end DatabaseDump.Options
