import DatabaseDump.Options.Delimiter
import DatabaseDump.Proofs.CsvReader
import DatabaseDump.Proofs.RawTexts

/-!
# What a load statement says

The statement that loads a side file holds two texts of its own: the path of the file and the
delimiter of its fields. Both stand between quotes as they are, so both are raw texts, and a
server that reads them finds what was meant exactly when neither holds a quote or a backslash.

The path is the first quoted text of the statement. The delimiter is the text after the words
that announce it, and since a path or a table may be named after these words, the last place
where they stand is the one that counts.
-/

namespace DatabaseDump.Sql

open Text (utf8)

namespace Reader

/-- The first text between quotes. -/
def firstText (meaning : UInt8 → UInt8) (bytes : Bytes) : Option Bytes :=
  (quotedBy meaning (bytes.dropWhile (· != quote)).tail).map Prod.fst

/-- What comes after the last place where a phrase stands. -/
def afterLast (phrase : Bytes) : Bytes → Option Bytes
  | [] => none
  | b :: rest => (afterLast phrase rest).or ((b :: rest).dropPrefix? phrase)

/-- The words before the delimiter of a load statement. -/
def terminatedBy : Bytes := utf8 "FIELDS TERMINATED BY "

/-- The text that a load statement names as the delimiter. -/
def delimiterText (meaning : UInt8 → UInt8) (bytes : Bytes) : Option Bytes :=
  (afterLast terminatedBy bytes).bind (firstText meaning)

variable {meaning : UInt8 → UInt8}

/-! ## The first text -/

/-- Bytes that are not touched at all are raw. -/
theorem isRaw_singleton (hmeaning : ∀ b, meaning b = backslash → b = backslash) :
    IsRaw meaning fun b => [b] where
  means := hmeaning
  keeps := fun _ _ => rfl
  other := fun _ _ _ => .inl rfl

theorem firstText_append {front : Bytes} (hfront : quote ∉ front) (rest : Bytes) :
    firstText meaning (front ++ quote :: rest) = (quotedBy meaning rest).map Prod.fst := by
  have hpass : ∀ b ∈ front, (b != quote) = true := by
    intro b hb
    exact bne_iff_ne.mpr fun heq => hfront (heq ▸ hb)
  rw [firstText, List.dropWhile_append_of_pos hpass]
  rfl

/-- **A text that was put between quotes as it is** is read back on the same condition. -/
theorem firstText_eq_some_iff (hmeaning : ∀ b, meaning b = backslash → b = backslash)
    {front : Bytes} (hfront : quote ∉ front) (s : String) (rest : Bytes) :
    firstText meaning (front ++ quote :: (utf8 s ++ quote :: rest)) = some (utf8 s)
      ↔ '\'' ∉ s.toList ∧ '\\' ∉ s.toList := by
  have hraw := (isRaw_singleton hmeaning).quotedBy_flatMap_iff (utf8 s) rest
  rw [List.flatMap_singleton'] at hraw
  have hquote : quote ∈ utf8 s ↔ '\'' ∈ s.toList := Text.mem_utf8_iff (by decide) (by decide) s
  have hbackslash : backslash ∈ utf8 s ↔ '\\' ∈ s.toList :=
    Text.mem_utf8_iff (by decide) (by decide) s
  rw [firstText_append hfront, ← hquote, ← hbackslash, ← hraw, Option.map_eq_some_iff]
  constructor
  · rintro ⟨⟨value, left⟩, hread, rfl⟩
    exact ⟨left, hread⟩
  · rintro ⟨left, hread⟩
    exact ⟨_, hread, rfl⟩

/-! ## The last place of a phrase -/

theorem afterLast_append {phrase bytes left : Bytes} (h : afterLast phrase bytes = some left)
    (front : Bytes) : afterLast phrase (front ++ bytes) = some left := by
  induction front with
  | nil => exact h
  | cons b front ih =>
    rw [List.cons_append, afterLast, ih]
    rfl

section

variable {first : UInt8} {phrase words : Bytes} (hphrase : phrase = first :: words)
include hphrase

/-- A phrase does not stand where its first byte does not. -/
theorem afterLast_append_of_not_mem {front : Bytes} (h : first ∉ front) (bytes : Bytes) :
    afterLast phrase (front ++ bytes) = afterLast phrase bytes := by
  induction front with
  | nil => rfl
  | cons b front ih =>
    obtain ⟨hb, hfront⟩ := not_or.mp (mt List.mem_cons.mpr h)
    have hnone : (b :: (front ++ bytes)).dropPrefix? phrase = none := by
      simp [hphrase, List.dropPrefix?, Ne.symm hb]
    rw [List.cons_append, afterLast, ih hfront, hnone, Option.or_none]

/-- What follows a phrase is after the last one if no phrase follows. -/
theorem afterLast_append_self {rest : Bytes} (hwords : first ∉ words)
    (hrest : afterLast phrase rest = none) (front : Bytes) :
    afterLast phrase (front ++ (phrase ++ rest)) = some rest := by
  refine afterLast_append ?_ front
  have hfound : (phrase ++ rest).dropPrefix? phrase = some rest :=
    List.dropPrefix?_append_of_beq _ BEq.rfl
  have hlater : afterLast phrase (words ++ rest) = none :=
    (afterLast_append_of_not_mem hphrase hwords rest).trans hrest
  have hcons : phrase ++ rest = first :: (words ++ rest) := by rw [hphrase, List.cons_append]
  rw [hcons] at hfound ⊢
  rw [afterLast, hlater, hfound]
  rfl

end

end Reader

open Reader

/-! ## Load statements -/

/-- What a load statement says before the path, but for the quote. -/
def Load.opening (load : Load) : Bytes :=
  utf8 ("LOAD DATA " ++ (if load.localFile then "LOCAL " else "") ++ "INFILE ")

/-- What it says between the path and the words before the delimiter, but for the quote. -/
def Load.middle (load : Load) : Bytes := utf8 (" INTO TABLE " ++ identifier load.table ++ " ")

/-- What it says after the delimiter, but for the quote. -/
def Load.closing : Bytes := utf8 " ENCLOSED BY '\"' LINES TERMINATED BY '\\n' PARALLEL 'FALSE';\n"

theorem Load.bytes_eq (load : Load) :
    (Statement.load load).bytes
      = load.opening ++ quote :: (utf8 load.path ++ quote :: (load.middle ++
        (terminatedBy ++ quote :: (utf8 load.delimiter ++ quote :: Load.closing)))) := by
  have hin : utf8 "INFILE '" = utf8 "INFILE " ++ [quote] := by decide
  have hinto : utf8 "' INTO TABLE " = quote :: utf8 " INTO TABLE " := by decide
  have hterminated : utf8 " FIELDS TERMINATED BY '" = utf8 " " ++ (terminatedBy ++ [quote]) := by
    decide
  have hclosing : utf8 "' ENCLOSED BY '\"' LINES TERMINATED BY '\\n' PARALLEL 'FALSE';\n"
      = quote :: Load.closing := by decide
  show utf8 load.text = _
  delta Load.text Load.opening Load.middle
  simp only [Text.utf8_append, hin, hinto, hterminated, hclosing, List.append_assoc,
    List.cons_append, List.nil_append]

theorem Load.quote_not_mem_opening (load : Load) : quote ∉ load.opening := by
  unfold Load.opening
  cases load.localFile <;> decide

theorem terminatedBy_eq : terminatedBy = 0x46 :: utf8 "IELDS TERMINATED BY " := rfl

/-- The words before the delimiter do not come again behind them. -/
theorem afterLast_closing (delimiter : Char) :
    afterLast terminatedBy
      (quote :: (utf8 (String.singleton delimiter) ++ quote :: Load.closing)) = none := by
  by_cases hletter : delimiter = 'F'
  · -- the delimiter may be the letter that these words begin with, but nothing like them follows
    subst hletter
    decide
  · have hfirst : 0x46 ∉ quote :: utf8 (String.singleton delimiter) := by
      have hmem : 0x46 ∈ utf8 (String.singleton delimiter)
          ↔ 'F' ∈ (String.singleton delimiter).toList :=
        Text.mem_utf8_iff (by decide) (by decide) _
      simpa [quote, hmem] using Ne.symm hletter
    have hskip : afterLast terminatedBy
        (quote :: utf8 (String.singleton delimiter) ++ quote :: Load.closing)
          = afterLast terminatedBy (quote :: Load.closing) :=
      afterLast_append_of_not_mem terminatedBy_eq hfirst _
    exact hskip.trans (by decide)

variable {meaning : UInt8 → UInt8}

/-- **The path of a load statement** is read back on the condition of raw texts. -/
theorem Load.firstText_eq_some_iff (hmeaning : ∀ b, meaning b = backslash → b = backslash)
    {load : Load} {file : String} (hfile : load.path = file) :
    firstText meaning (Statement.load load).bytes = some (utf8 file)
      ↔ '\'' ∉ file.toList ∧ '\\' ∉ file.toList := by
  rw [load.bytes_eq, hfile]
  exact Reader.firstText_eq_some_iff hmeaning load.quote_not_mem_opening file _

/-- **The delimiter of a load statement** is read back on the same condition. -/
theorem Load.delimiterText_eq_some_iff (hmeaning : ∀ b, meaning b = backslash → b = backslash)
    {load : Load} {delimiter : Char} (hdelimiter : load.delimiter = String.singleton delimiter) :
    delimiterText meaning (Statement.load load).bytes = some (utf8 (String.singleton delimiter))
      ↔ delimiter ≠ '\'' ∧ delimiter ≠ '\\' := by
  have hlast : afterLast terminatedBy (Statement.load load).bytes
      = some (quote :: (utf8 (String.singleton delimiter) ++ quote :: Load.closing)) := by
    have hfound := afterLast_append_self terminatedBy_eq (by decide) (afterLast_closing delimiter)
      (load.opening ++ quote :: (utf8 load.path ++ quote :: load.middle))
    simp only [List.append_assoc, List.cons_append] at hfound
    rw [load.bytes_eq, hdelimiter, hfound]
  have hread := Reader.firstText_eq_some_iff hmeaning List.not_mem_nil
    (String.singleton delimiter) Load.closing
  rw [delimiterText, hlast]
  simpa [eq_comm] using hread

end DatabaseDump.Sql

namespace DatabaseDump.Dump.SideFile

open Work
open Sql.Reader (firstText delimiterText)
open Sql (backslash)
open Text (utf8)

/--
**The statement that is written after the rows of a table says where they are and how they are
delimited exactly when the path and the delimiter hold no quote and no backslash.**

A server may give any meaning to the byte after a backslash, as long as nothing but a
backslash means one.
-/
theorem writeTable_load_says_iff (meaning : UInt8 → UInt8)
    (hmeaning : ∀ b, meaning b = backslash → b = backslash)
    (escaper : Csv.Escaper) (setting : Value) (delimiter : Char) (localFile : Bool)
    (database table : Value) (columns : List Column) (rows : List Row) (session : Session)
    (location : Location) (hdelimiter : Options.delimiterOf setting = .ok delimiter)
    (hlocation : session.folder.openForWriting (path session.folder.basePath database table)
      = .ok location) :
    let file := (path session.folder.basePath database table).text
    ∃ (stats : TableStats) (written : Session) (load : Sql.Load),
      start (writeTable ⟨escaper, setting, localFile⟩ database table columns ⟨rows, none⟩) session
        = (.ok stats, written)
      ∧ written.output = session.output ++ [.load load]
      ∧ (firstText meaning (Sql.Statement.load load).bytes = some (utf8 file)
        ↔ '\'' ∉ file.toList ∧ '\\' ∉ file.toList)
      ∧ (delimiterText meaning (Sql.Statement.load load).bytes
          = some (utf8 (String.singleton delimiter))
        ↔ delimiter ≠ '\'' ∧ delimiter ≠ '\\') := by
  intro file
  obtain rfl := Options.delimiterOf_eq_ok_iff.mp hdelimiter
  have hrun := start_writeTable escaper delimiter localFile database table columns rows session
    hlocation
  refine ⟨_, _, ⟨file, table.toText, String.singleton delimiter, localFile⟩, hrun, rfl, ?_, ?_⟩
  · -- the text of the path does not matter, and it is long to unfold
    clear_value file
    exact Sql.Load.firstText_eq_some_iff hmeaning rfl
  · exact Sql.Load.delimiterText_eq_some_iff hmeaning rfl

/--
A file in the working directory and a comma are read back. The comma and the quote in the rows
stay in the file.
-/
theorem writeTable_load_says_plain :
    let columns : List Column := [⟨.text "id", "int", .integer⟩, ⟨.text "note", "text", .text⟩]
    let rows : List Row := [[some (utf8 "1"), some (utf8 "five, o'clock")], [some (utf8 "2"), none]]
    let session : Session := { folder := { base := [] } }
    (∀ b, id b = backslash → b = backslash)
    ∧ Options.delimiterOf (.text ",") = .ok ','
    ∧ session.folder.openForWriting (path session.folder.basePath (.text "shop") (.text "orders"))
      = .ok ["shop_orders.csv"]
    ∧ ∃ (stats : TableStats) (written : Session) (load : Sql.Load),
      start (writeTable ⟨{}, .text ",", true⟩ (.text "shop") (.text "orders") columns ⟨rows, none⟩)
          session
        = (.ok stats, written)
      ∧ written.folder.read? ["shop_orders.csv"] = some (utf8 "1,\"five, o'clock\"\n2,\\N\n")
      ∧ written.output = [.load load]
      ∧ firstText id (Sql.Statement.load load).bytes = some (utf8 "/shop_orders.csv")
      ∧ delimiterText id (Sql.Statement.load load).bytes = some (utf8 ",") := by
  intro columns rows session
  have hmeaning : ∀ b, id b = backslash → b = backslash := fun _ h => h
  have hdelimiter : Options.delimiterOf (.text ",") = .ok ',' := by decide
  have hlocation : session.folder.openForWriting
      (path session.folder.basePath (.text "shop") (.text "orders"))
        = .ok ["shop_orders.csv"] := by decide +kernel
  have hfile : (start (writeTable ⟨{}, .text ",", true⟩ (.text "shop") (.text "orders") columns
      ⟨rows, none⟩) session).2.folder.read? ["shop_orders.csv"]
        = some (utf8 "1,\"five, o'clock\"\n2,\\N\n") := by decide +kernel
  obtain ⟨stats, written, load, hrun, houtput, hpath, hcomma⟩ :=
    writeTable_load_says_iff id hmeaning {} (.text ",") ',' true (.text "shop") (.text "orders")
      columns rows session ["shop_orders.csv"] hdelimiter hlocation
  rw [hrun] at hfile
  refine ⟨hmeaning, hdelimiter, hlocation, stats, written, load, hrun, hfile, houtput, ?_, ?_⟩
  · exact hpath.mpr (by decide)
  · exact hcomma.mpr (by decide)

/-- A quote in the name of a table cuts off the path, and a quote as the delimiter ends its text. -/
theorem writeTable_load_misread :
    let session : Session := { folder := { base := [] } }
    Options.delimiterOf (.text "'") = .ok '\''
    ∧ session.folder.openForWriting (path session.folder.basePath (.text "shop") (.text "o'clock"))
      = .ok ["shop_o'clock.csv"]
    ∧ (start (writeTable ⟨{}, .text "'", true⟩ (.text "shop") (.text "o'clock") [] ⟨[], none⟩)
        session).2.output = [.load ⟨"/shop_o'clock.csv", "o'clock", "'", true⟩]
    ∧ firstText id (Sql.Statement.load ⟨"/shop_o'clock.csv", "o'clock", "'", true⟩).bytes
      = some (utf8 "/shop_o")
    ∧ delimiterText id (Sql.Statement.load ⟨"/shop_o'clock.csv", "o'clock", "'", true⟩).bytes
      = some [] := by
  decide +kernel

end DatabaseDump.Dump.SideFile
