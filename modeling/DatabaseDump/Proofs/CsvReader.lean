import DatabaseDump.Dump.SideFile
import DatabaseDump.Proofs.Utf8

/-!
# Side files can be read back

A reader that knows the delimiter, and nothing else of a side file, takes it apart in the
reverse order of its writing: bytes into symbols, symbols into lines and lines into
fields, wherever a newline or a delimiter stands outside of quotes, quoted fields into
what they quote, and fields into cells by dropping the backslashes that escape.

Two observations carry this. A written field has a delimiter or a newline only between
its quotes, and it has an even number of quotes, so counting quotes is enough to tell
the inside from the outside: `IsWhole`. And every layer of escaping puts a character
before some symbols, among them all its own occurrences, so one function undoes each of
them: `Escapes`.
-/

namespace DatabaseDump.Csv

open Text (Symbol symbols bytesOf IsRead)

namespace Reader

/-- The double quote. -/
def quote : Symbol := .char '"'

/-- The backslash. -/
def backslash : Symbol := .char '\\'

/-- The newline. -/
def newline : Symbol := .char '\n'

/--
The pieces between the separators that stand outside of quotes. The first argument says
whether the text opens within quotes; every quote changes that.
-/
def pieces (separator : Symbol) : Bool → List Symbol → List (List Symbol)
  | _, [] => [[]]
  | inside, s :: rest =>
    if s = separator ∧ inside = false then [] :: pieces separator false rest
    else (pieces separator (inside ^^ (s == quote)) rest).modifyHead (s :: ·)

/-- The lines of a text, each with a newline behind it, the last one perhaps without. -/
def lines (text : List Symbol) : List (List Symbol) :=
  let found := pieces newline false text
  if found.getLast? = some [] then found.dropLast else found

/-- Drops every mark and takes the symbol after it as it is. -/
def dropMarks (mark : Symbol) : List Symbol → List Symbol
  | [] => []
  | [s] => if s = mark then [] else [s]
  | s :: t :: rest => if s = mark then t :: dropMarks mark rest else s :: dropMarks mark (t :: rest)

/-- A field without the quotes around it, and with one quote for each two inside. -/
def unquoted : List Symbol → List Symbol
  | [] => []
  | s :: inner => if s = quote then dropMarks quote inner.dropLast else s :: inner

/-- The fields of a line. -/
def fields (delimiter : Char) (line : List Symbol) : List (List Symbol) :=
  (pieces (.char delimiter) false line).map unquoted

/-- The records of a text. -/
def records (delimiter : Char) (text : List Symbol) : List (List (List Symbol)) :=
  (lines text).map (fields delimiter)

/-- The cell that a field stands for. -/
def cell (field : List Symbol) : Cell :=
  if field = sentinel then none else some (bytesOf (dropMarks backslash field))

/-- The rows of a side file. -/
def rows (delimiter : Char) (bytes : Bytes) : List Row :=
  (records delimiter (symbols bytes)).map (List.map cell)

end Reader

open Reader

/-! ## Escaping -/

/-- Puts a mark before some characters, and nothing before stray bytes. -/
structure Marks (mark : Char) (f : Symbol → List Symbol) : Prop where
  stray : ∀ b, f (.stray b) = [.stray b]
  char : ∀ c, f (.char c) = [.char mark, .char c] ∨ f (.char c) = [.char c]

namespace Marks

variable {mark : Char} {f : Symbol → List Symbol}

theorem strayRun_flatMap (hf : Marks mark f) (field : List Symbol) :
    Text.strayRun (field.flatMap f) = Text.strayRun field := by
  induction field with
  | nil => rfl
  | cons s field ih =>
    rw [List.flatMap_cons]
    cases s with
    | stray b =>
      rw [hf.stray b]
      exact congrArg (b :: ·) ih
    | char c =>
      rcases hf.char c with h | h
      · rw [h]
        rfl
      · rw [h]
        rfl

/-- Marks do not bring stray bytes together. -/
theorem isRead_flatMap (hf : Marks mark f) {field : List Symbol} (h : IsRead field) :
    IsRead (field.flatMap f) := by
  induction h with
  | nil => exact .nil
  | @char c field h ih =>
    rw [List.flatMap_cons]
    rcases hf.char c with hc | hc
    · rw [hc]
      exact .char mark (.char c ih)
    · rw [hc]
      exact .char c ih
  | @stray b field hb h ih =>
    rw [List.flatMap_cons, hf.stray b, List.singleton_append]
    refine .stray ?_ ih
    rwa [hf.strayRun_flatMap]

end Marks

/-- Puts a mark before some characters, among them the mark itself. -/
structure Escapes (mark : Char) (f : Symbol → List Symbol) : Prop where
  stray : ∀ b, f (.stray b) = [.stray b]
  char : ∀ c, f (.char c) = [.char mark, .char c] ∨ c ≠ mark ∧ f (.char c) = [.char c]

namespace Escapes

variable {mark : Char} {f : Symbol → List Symbol}

theorem marks (hf : Escapes mark f) : Marks mark f where
  stray := hf.stray
  char := fun c => (hf.char c).imp_right And.right

/-- A symbol is marked or is another one than the mark. -/
theorem apply (hf : Escapes mark f) (s : Symbol) :
    f s = [.char mark, s] ∨ s ≠ .char mark ∧ f s = [s] := by
  cases s with
  | stray b => exact .inr ⟨by simp, hf.stray b⟩
  | char c =>
    rcases hf.char c with h | ⟨hne, h⟩
    · exact .inl h
    · exact .inr ⟨by simpa using hne, h⟩

/-- **Dropping the marks undoes the escaping.** -/
theorem dropMarks_flatMap (hf : Escapes mark f) (field : List Symbol) :
    dropMarks (.char mark) (field.flatMap f) = field := by
  induction field with
  | nil => rfl
  | cons s field ih =>
    rw [List.flatMap_cons]
    rcases hf.apply s with h | ⟨hne, h⟩
    · rw [h, List.cons_append, List.singleton_append, dropMarks, if_pos rfl, ih]
    · rw [h, List.singleton_append]
      cases hrest : field.flatMap f with
      | nil =>
        rw [hrest] at ih
        rw [dropMarks, if_neg hne, ← ih]
        rfl
      | cons t rest =>
        rw [hrest] at ih
        rw [dropMarks, if_neg hne, ih]

end Escapes

/-- Doubling one character puts it before itself. -/
theorem escapes_of_doubling {mark : Char} {f : Symbol → List Symbol}
    (h : ∀ s, f s = if s = .char mark then [s, s] else [s]) : Escapes mark f where
  stray := by
    intro b
    rw [h, if_neg nofun]
  char := by
    intro c
    by_cases hc : c = mark
    · subst hc
      left
      rw [h, if_pos rfl]
    · right
      refine ⟨hc, ?_⟩
      rw [h, if_neg fun heq => hc (Symbol.char.inj heq)]

theorem escapes_quotedSymbol : Escapes '"' quotedSymbol := escapes_of_doubling fun _ => rfl

theorem escapes_doubled : Escapes '\\' doubled := escapes_of_doubling fun _ => rfl

theorem marks_escapedSymbol (chars : List Char) : Marks '\\' (Escaper.escapedSymbol chars) where
  stray := fun _ => rfl
  char := by
    intro c
    by_cases h : chars.contains c = true
    · exact .inl (if_pos h)
    · exact .inr (if_neg h)

/-- Doubling and escaping together put one backslash before a character. -/
theorem escapes_doubled_escapedSymbol {chars : List Char} (hchars : '\\' ∉ chars) :
    Escapes '\\' fun s => (doubled s).flatMap (Escaper.escapedSymbol chars) where
  stray := fun b => rfl
  char := by
    intro c
    by_cases h : c = '\\'
    · subst h
      left
      simp [doubled, Escaper.escapedSymbol, hchars]
    · by_cases hc : c ∈ chars
      · left
        simp [doubled, Escaper.escapedSymbol, h, hc]
      · right
        simp [doubled, Escaper.escapedSymbol, h, hc]

/-- No escaped field is the sentinel, unless the letter of the sentinel is escaped. -/
theorem Escapes.flatMap_ne_sentinel {f : Symbol → List Symbol} (hf : Escapes '\\' f)
    (hletter : f (.char 'N') = [.char 'N']) (field : List Symbol) : field.flatMap f ≠ sentinel := by
  intro h
  -- dropping the mark from the sentinel leaves its letter, which is written without a mark
  have hfield : field = [.char 'N'] := by
    have hdrop := hf.dropMarks_flatMap field
    rw [h] at hdrop
    exact hdrop.symm
  rw [hfield, List.flatMap_singleton, hletter] at h
  cases h

/-! ## Splitting outside of quotes -/

/-- A text that opens and ends outside of quotes and holds the separator only inside. -/
def IsWhole (separator : Symbol) (text : List Symbol) : Prop :=
  ∀ rest, pieces separator false (text ++ rest)
    = (pieces separator false rest).modifyHead (text ++ ·)

variable {separator : Symbol}

theorem pieces_separator (rest : List Symbol) :
    pieces separator false (separator :: rest) = [] :: pieces separator false rest := by
  rw [pieces, if_pos ⟨rfl, rfl⟩]

theorem pieces_quote (hquote : separator ≠ quote) (inside : Bool) (rest : List Symbol) :
    pieces separator inside (quote :: rest)
      = (pieces separator (!inside) rest).modifyHead (quote :: ·) := by
  rw [pieces, if_neg fun h => hquote h.1.symm]
  simp

theorem pieces_outside {s : Symbol} (hseparator : s ≠ separator) (hquote : s ≠ quote)
    (rest : List Symbol) :
    pieces separator false (s :: rest) = (pieces separator false rest).modifyHead (s :: ·) := by
  have hs : (s == quote) = false := beq_eq_false_iff_ne.mpr hquote
  rw [pieces, if_neg fun h => hseparator h.1, hs, Bool.xor_false]

/-- Inside of quotes only a quote makes a difference. -/
theorem pieces_inside {s : Symbol} (hquote : s ≠ quote) (rest : List Symbol) :
    pieces separator true (s :: rest) = (pieces separator true rest).modifyHead (s :: ·) := by
  have hs : (s == quote) = false := beq_eq_false_iff_ne.mpr hquote
  rw [pieces, if_neg fun h => Bool.noConfusion h.2, hs, Bool.xor_false]

theorem isWhole_nil : IsWhole separator [] := by
  intro rest
  exact (congrFun List.modifyHead_id _).symm

theorem IsWhole.append {front back : List Symbol} (hfront : IsWhole separator front)
    (hback : IsWhole separator back) : IsWhole separator (front ++ back) := by
  intro rest
  rw [List.append_assoc, hfront, hback, List.modifyHead_modifyHead]
  congr 1
  funext piece
  exact (List.append_assoc front back piece).symm

theorem isWhole_singleton {s : Symbol} (hseparator : s ≠ separator) (hquote : s ≠ quote) :
    IsWhole separator [s] :=
  pieces_outside hseparator hquote

theorem isWhole_of_forall {text : List Symbol}
    (h : ∀ s ∈ text, s ≠ separator ∧ s ≠ quote) : IsWhole separator text := by
  induction text with
  | nil => exact isWhole_nil
  | cons s text ih =>
    have hs := h s List.mem_cons_self
    have htext := ih fun t ht => h t (List.mem_cons_of_mem _ ht)
    exact (isWhole_singleton hs.1 hs.2).append htext

/-- The quotes inside of a quoted field come in pairs, so the text stays inside. -/
theorem pieces_flatMap_quotedSymbol (hquote : separator ≠ quote) (field rest : List Symbol) :
    pieces separator true (field.flatMap quotedSymbol ++ rest)
      = (pieces separator true rest).modifyHead (field.flatMap quotedSymbol ++ ·) := by
  induction field with
  | nil => exact (congrFun List.modifyHead_id _).symm
  | cons s field ih =>
    rw [List.flatMap_cons, List.append_assoc]
    by_cases hs : s = quote
    · subst hs
      have hpair : quotedSymbol quote = [quote, quote] := rfl
      rw [hpair, List.cons_append, List.singleton_append, pieces_quote hquote, Bool.not_true,
        pieces_quote hquote, Bool.not_false, ih, List.modifyHead_modifyHead,
        List.modifyHead_modifyHead]
      rfl
    · -- a separator is no exception: inside of quotes it separates nothing
      have hone : quotedSymbol s = [s] := if_neg hs
      rw [hone, List.singleton_append, pieces_inside hs, ih, List.modifyHead_modifyHead]
      rfl

theorem isWhole_quotedField (hquote : separator ≠ quote) (field : List Symbol) :
    IsWhole separator (quotedField field) := by
  intro rest
  have hopened : quotedField field ++ rest
      = quote :: (field.flatMap quotedSymbol ++ quote :: rest) := by
    simp [quotedField, quote]
  rw [hopened, pieces_quote hquote, Bool.not_false, pieces_flatMap_quotedSymbol hquote,
    pieces_quote hquote, Bool.not_true, List.modifyHead_modifyHead, List.modifyHead_modifyHead]
  congr 1
  funext piece
  simp [quotedField, quote]

theorem IsWhole.pieces_eq {text : List Symbol} (h : IsWhole separator text) :
    pieces separator false text = [text] := by
  have hpieces := h []
  rw [List.append_nil] at hpieces
  rw [hpieces]
  simp [pieces]

theorem IsWhole.pieces_append_separator {text : List Symbol} (h : IsWhole separator text)
    (rest : List Symbol) :
    pieces separator false (text ++ separator :: rest)
      = text :: pieces separator false rest := by
  rw [h, pieces_separator]
  simp

/-- What holds of texts, and of two texts joined, holds of all of them joined. -/
theorem intercalate_induction {joint : List Symbol} {P : List Symbol → Prop} (hnil : P [])
    (hjoin : ∀ front back, P front → P back → P (front ++ joint ++ back))
    {texts : List (List Symbol)} (h : ∀ text ∈ texts, P text) :
    P (List.intercalate joint texts) := by
  induction texts with
  | nil => exact hnil
  | cons text texts ih =>
    have htext := h text List.mem_cons_self
    have hrest := ih fun t ht => h t (List.mem_cons_of_mem _ ht)
    cases texts with
    | nil =>
      rw [List.intercalate_singleton]
      exact htext
    | cons next texts =>
      rw [List.intercalate_cons_cons]
      exact hjoin _ _ htext hrest

/-- **Whole texts with separators between them are split again.** -/
theorem pieces_intercalate {texts : List (List Symbol)} (hne : texts ≠ [])
    (h : ∀ text ∈ texts, IsWhole separator text) :
    pieces separator false (List.intercalate [separator] texts) = texts := by
  induction texts with
  | nil => exact absurd rfl hne
  | cons text texts ih =>
    have htext := h text List.mem_cons_self
    cases texts with
    | nil =>
      rw [List.intercalate_singleton]
      exact htext.pieces_eq
    | cons next texts =>
      have hrest := ih (List.cons_ne_nil _ _) fun t ht => h t (List.mem_cons_of_mem _ ht)
      rw [List.intercalate_cons_cons, List.append_assoc, List.singleton_append,
        htext.pieces_append_separator, hrest]

/-- **Whole lines, each with its newline, are found again.** -/
theorem lines_flatMap {texts : List (List Symbol)} (h : ∀ text ∈ texts, IsWhole newline text) :
    lines (texts.flatMap (· ++ [newline])) = texts := by
  have hpieces : pieces newline false (texts.flatMap (· ++ [newline])) = texts ++ [[]] := by
    induction texts with
    | nil => rfl
    | cons text texts ih =>
      have hrest := ih fun t ht => h t (List.mem_cons_of_mem _ ht)
      rw [List.flatMap_cons, List.append_assoc, List.singleton_append,
        (h text List.mem_cons_self).pieces_append_separator, hrest, List.cons_append]
  rw [lines, hpieces]
  simp

/-! ## Records -/

/-- What a field may be written as: itself, when nothing forces quotes, or between quotes. -/
inductive Written (delimiter : Char) : List Symbol → List Symbol → Prop
  | bare {field : List Symbol} (h : ∀ s ∈ field, forcesQuotes delimiter s = false) :
      Written delimiter field field
  | quoted (field : List Symbol) : Written delimiter field (quotedField field)

variable {delimiter : Char}

theorem written_writtenField (field : List Symbol) :
    Written delimiter field (writtenField delimiter field) := by
  unfold writtenField
  split
  · exact .quoted field
  · rename_i h
    rw [Bool.not_eq_true, List.any_eq_false] at h
    exact .bare fun s hs => Bool.not_eq_true _ ▸ h s hs

theorem ne_of_forcesQuotes {s t : Symbol} (hs : forcesQuotes delimiter s = false)
    (ht : forcesQuotes delimiter t) : s ≠ t := by
  rintro rfl
  rw [hs] at ht
  cases ht

theorem forcesQuotes_quote : forcesQuotes delimiter quote := by
  simp [forcesQuotes, quote]

theorem Written.unquoted_eq {field text : List Symbol} (h : Written delimiter field text) :
    unquoted text = field := by
  cases h with
  | bare hplain =>
    cases field with
    | nil => rfl
    | cons s field =>
      have hs : s ≠ quote := ne_of_forcesQuotes (hplain s List.mem_cons_self) forcesQuotes_quote
      rw [unquoted, if_neg hs]
  | quoted =>
    have hquote : Symbol.char '"' = quote := rfl
    rw [quotedField, List.cons_append, unquoted, if_pos hquote, List.dropLast_concat]
    exact escapes_quotedSymbol.dropMarks_flatMap field

theorem Written.isWhole {field text : List Symbol} (h : Written delimiter field text)
    (hquote : separator ≠ quote) (hforces : forcesQuotes delimiter separator) :
    IsWhole separator text := by
  cases h with
  | bare hplain =>
    refine isWhole_of_forall fun s hs => ⟨?_, ?_⟩
    · exact ne_of_forcesQuotes (hplain s hs) hforces
    · exact ne_of_forcesQuotes (hplain s hs) forcesQuotes_quote
  | quoted => exact isWhole_quotedField hquote field

theorem Written.isRead {field text : List Symbol} (h : Written delimiter field text)
    (hfield : IsRead field) : IsRead text := by
  cases h with
  | bare => exact hfield
  | quoted =>
    exact .char '"' ((escapes_quotedSymbol.marks.isRead_flatMap hfield).append_char '"' .nil)

/-- **A record is its fields, each as it may be written**, with delimiters and a newline. -/
theorem exists_record_eq (delimiter : Char) (fields : List (List Symbol)) :
    ∃ write : List Symbol → List Symbol, (∀ field, Written delimiter field (write field))
      ∧ record delimiter fields
        = List.intercalate [.char delimiter] (fields.map write) ++ [newline] := by
  by_cases hlone : fields = [[]]
  · -- only here quotes stand around a field that needs none
    subst hlone
    exact ⟨quotedField, .quoted, rfl⟩
  · refine ⟨writtenField delimiter, written_writtenField, ?_⟩
    rw [record, if_neg hlone]
    rfl

/-- A line of a side file: whole, with a newline behind it, and split into its fields. -/
theorem exists_line (hquote : delimiter ≠ '"') (hnewline : delimiter ≠ '\n')
    {fields : List (List Symbol)} (hne : fields ≠ []) :
    ∃ line, record delimiter fields = line ++ [newline] ∧ IsWhole newline line
      ∧ Reader.fields delimiter line = fields := by
  obtain ⟨write, hwrite, hrecord⟩ := exists_record_eq delimiter fields
  have hquote' : Symbol.char delimiter ≠ quote := by simpa [quote] using hquote
  have hnewline' : Symbol.char delimiter ≠ newline := by simpa [newline] using hnewline
  refine ⟨_, hrecord, ?_, ?_⟩
  · have hdelimiter : IsWhole newline [.char delimiter] := isWhole_singleton hnewline' hquote'
    refine intercalate_induction isWhole_nil
      (fun front back hfront hback => (hfront.append hdelimiter).append hback) fun text ht => ?_
    obtain ⟨field, -, rfl⟩ := List.mem_map.mp ht
    exact (hwrite field).isWhole (by decide) (by simp [forcesQuotes, newline])
  · have hpieces : pieces (.char delimiter) false
        (List.intercalate [.char delimiter] (fields.map write)) = fields.map write := by
      refine pieces_intercalate (by simpa using hne) fun text ht => ?_
      obtain ⟨field, -, rfl⟩ := List.mem_map.mp ht
      exact (hwrite field).isWhole hquote' (by simp [forcesQuotes])
    rw [Reader.fields, hpieces, List.map_map]
    exact List.map_id'' (fun field => (hwrite field).unquoted_eq) fields

theorem exists_lines (hquote : delimiter ≠ '"') (hnewline : delimiter ≠ '\n')
    {found : List (List (List Symbol))} (hne : ∀ fields ∈ found, fields ≠ []) :
    ∃ texts : List (List Symbol), content delimiter found = texts.flatMap (· ++ [newline])
      ∧ (∀ text ∈ texts, IsWhole newline text)
      ∧ texts.map (Reader.fields delimiter) = found := by
  induction found with
  | nil => exact ⟨[], rfl, by simp, rfl⟩
  | cons fields found ih =>
    obtain ⟨texts, hcontent, hwhole, hfields⟩ := ih fun f hf => hne f (List.mem_cons_of_mem _ hf)
    obtain ⟨line, hrecord, hline, hsplit⟩ :=
      exists_line hquote hnewline (hne fields List.mem_cons_self)
    refine ⟨line :: texts, ?_, ?_, ?_⟩
    · rw [content, List.flatMap_cons, hrecord, List.flatMap_cons, ← hcontent]
      rfl
    · intro text ht
      rcases List.mem_cons.mp ht with rfl | ht
      · exact hline
      · exact hwhole text ht
    · rw [List.map_cons, hsplit, hfields]

/-- **The records of a side file are read back.** -/
theorem records_content (hquote : delimiter ≠ '"') (hnewline : delimiter ≠ '\n')
    {found : List (List (List Symbol))} (hne : ∀ fields ∈ found, fields ≠ []) :
    records delimiter (content delimiter found) = found := by
  obtain ⟨texts, hcontent, hwhole, hfields⟩ := exists_lines hquote hnewline hne
  rw [records, hcontent, lines_flatMap hwhole, hfields]

/-- A delimiter, two quotes and a newline inside of quotes, and a lone empty field. -/
example : records ',' (Text.symbolsOfText "a,\"b,\"\"\nc\"\n\"\"\n")
    = [["a", "b,\"\nc"].map Text.symbolsOfText, [[]]] := by decide

/-- Records put only characters around their fields. -/
theorem isRead_record {fields : List (List Symbol)} (h : ∀ field ∈ fields, IsRead field)
    {rest : List Symbol} (hrest : IsRead rest) : IsRead (record delimiter fields ++ rest) := by
  obtain ⟨write, hwrite, hrecord⟩ := exists_record_eq delimiter fields
  have hline : IsRead (List.intercalate [.char delimiter] (fields.map write)) := by
    refine intercalate_induction .nil (fun front back hfront hback => ?_) fun text ht => ?_
    · rw [List.append_assoc, List.singleton_append]
      exact hfront.append_char delimiter hback
    · obtain ⟨field, hfield, rfl⟩ := List.mem_map.mp ht
      exact (hwrite field).isRead (h field hfield)
  rw [hrecord, List.append_assoc]
  exact hline.append_char '\n' hrest

theorem isRead_content {found : List (List (List Symbol))}
    (h : ∀ fields ∈ found, ∀ field ∈ fields, IsRead field) :
    IsRead (content delimiter found) := by
  induction found with
  | nil => exact .nil
  | cons fields found ih =>
    rw [content, List.flatMap_cons]
    exact isRead_record (h fields List.mem_cons_self)
      (ih fun f hf => h f (List.mem_cons_of_mem _ hf))

/-! ## Cells -/

theorem symbols_ne_sentinel {value : Bytes} (h : value ≠ [0x5C, 0x4E]) :
    symbols value ≠ sentinel := by
  intro hsentinel
  have hvalue := Text.bytesOf_symbols value
  rw [hsentinel] at hvalue
  exact h hvalue.symm

/-- The symbols of a value are escaped one by one, whether or not the escaper is enabled. -/
theorem exists_escapes_encode {escaper : Escaper} (hbackslash : '\\' ∉ escaper.chars)
    (hletter : 'N' ∉ escaper.chars) (tag : TypeTag) :
    ∃ f, Escapes '\\' f ∧ f (.char 'N') = [.char 'N']
      ∧ ∀ value ≠ [0x5C, 0x4E], escaper.encode tag (some value) = (symbols value).flatMap f := by
  have hfield {value : Bytes} (hvalue : value ≠ [0x5C, 0x4E]) :
      field (some value) = (symbols value).flatMap doubled :=
    if_neg (symbols_ne_sentinel hvalue)
  -- backslashes are doubled first, so those that the escaper adds are not doubled again
  by_cases henabled : (escaper.enabled && tag.isString) = true
  · refine ⟨_, escapes_doubled_escapedSymbol hbackslash, ?_, ?_⟩
    · simp [doubled, Escaper.escapedSymbol, hletter]
    · intro value hvalue
      have hne : field (some value) ≠ sentinel := by
        rw [hfield hvalue]
        exact escapes_doubled.flatMap_ne_sentinel rfl _
      rw [Escaper.encode, if_pos henabled, Escaper.escape, if_neg hne, hfield hvalue,
        List.flatMap_assoc]
  · refine ⟨doubled, escapes_doubled, rfl, ?_⟩
    intro value hvalue
    rw [Escaper.encode, if_neg henabled, hfield hvalue]

theorem encode_none (escaper : Escaper) (tag : TypeTag) : escaper.encode tag none = sentinel := by
  unfold Escaper.encode
  split
  · exact if_pos rfl
  · rfl

theorem isRead_field (value : Cell) : IsRead (field value) := by
  cases value with
  | none => exact .char '\\' (.char 'N' .nil)
  | some value =>
    rw [field, doubleBackslashes]
    split
    · exact Text.isRead_symbols value
    · exact escapes_doubled.marks.isRead_flatMap (Text.isRead_symbols value)

theorem length_encodeRow {tags : List TypeTag} {row : Row} (h : row.length = tags.length)
    (escaper : Escaper) : (escaper.encodeRow tags row).length = tags.length := by
  rw [Escaper.encodeRow, List.length_zipWith, h, Nat.min_self]

/-- The fields of a row come from bytes, and so they are read back from theirs. -/
theorem isRead_encodeRow (escaper : Escaper) (tags : List TypeTag) (row : Row) :
    ∀ field ∈ escaper.encodeRow tags row, IsRead field := by
  intro field hfield
  rw [Escaper.encodeRow, ← List.map_uncurry_zip_eq_zipWith, List.mem_map] at hfield
  obtain ⟨⟨tag, value⟩, -, rfl⟩ := hfield
  show IsRead (escaper.encode tag value)
  unfold Escaper.encode Escaper.escape
  split
  · split
    · exact isRead_field value
    · exact (marks_escapedSymbol escaper.chars).isRead_flatMap (isRead_field value)
  · exact isRead_field value

section

variable {escaper : Escaper} (hbackslash : '\\' ∉ escaper.chars) (hletter : 'N' ∉ escaper.chars)
include hbackslash hletter

/-- **A field is read back as the cell it was written for.** -/
theorem cell_encode (tag : TypeTag) {value : Cell} (h : value ≠ some [0x5C, 0x4E]) :
    cell (escaper.encode tag value) = value := by
  cases value with
  | none =>
    rw [encode_none]
    rfl
  | some value =>
    obtain ⟨f, hf, hN, hencode⟩ := exists_escapes_encode hbackslash hletter tag
    rw [hencode value (by simpa using h), cell, if_neg (hf.flatMap_ne_sentinel hN _)]
    exact congrArg some ((congrArg bytesOf (hf.dropMarks_flatMap _)).trans
      (Text.bytesOf_symbols value))

theorem map_cell_encodeRow {tags : List TypeTag} {row : Row} (hlength : row.length = tags.length)
    (h : some [0x5C, 0x4E] ∉ row) : (escaper.encodeRow tags row).map cell = row := by
  induction row generalizing tags with
  | nil =>
    rw [Escaper.encodeRow, List.zipWith_nil_right]
    rfl
  | cons value row ih =>
    obtain ⟨hvalue, hrow⟩ := not_or.mp (mt List.mem_cons.mpr h)
    cases tags with
    | nil => cases hlength
    | cons tag tags =>
      have hcells := ih (Nat.succ.inj hlength) hrow
      have hcell := cell_encode hbackslash hletter tag (Ne.symm hvalue)
      rw [Escaper.encodeRow, List.zipWith_cons_cons, List.map_cons, hcell]
      exact congrArg (value :: ·) hcells

/-- **The rows of a side file are read back.** -/
theorem rows_fileBytes (hquote : delimiter ≠ '"') (hnewline : delimiter ≠ '\n')
    {tags : List TypeTag} (htags : tags ≠ []) {found : List Row}
    (h : ∀ row ∈ found, row.length = tags.length ∧ some [0x5C, 0x4E] ∉ row) :
    rows delimiter (fileBytes escaper delimiter tags found) = found := by
  have hread : IsRead (content delimiter (found.map (escaper.encodeRow tags))) := by
    refine isRead_content fun fields hfields => ?_
    obtain ⟨row, hrow, rfl⟩ := List.mem_map.mp hfields
    exact isRead_encodeRow escaper tags row
  have hne : ∀ fields ∈ found.map (escaper.encodeRow tags), fields ≠ [] := by
    intro fields hfields
    obtain ⟨row, hrow, rfl⟩ := List.mem_map.mp hfields
    rw [← List.length_pos_iff, length_encodeRow (h row hrow).1, List.length_pos_iff]
    exact htags
  rw [rows, fileBytes, Text.symbols_bytesOf hread, records_content hquote hnewline hne,
    List.map_map]
  calc found.map (List.map cell ∘ escaper.encodeRow tags)
    _ = found.map id := List.map_congr_left fun row hrow =>
        map_cell_encodeRow hbackslash hletter (h row hrow).1 (h row hrow).2
    _ = found := List.map_id found

end

end DatabaseDump.Csv

namespace DatabaseDump.Dump.SideFile

open Work

theorem delimiterChar_singleton (delimiter : Char) :
    delimiterChar (.text (String.singleton delimiter)) = .ok delimiter := by
  simp [delimiterChar]

/--
What is left behind by a table whose rows do not break off: its side file, one statement
that loads it, and a record in the log.
-/
theorem start_writeTable (escaper : Csv.Escaper) (delimiter : Char) (localFile : Bool)
    (database table : Value) (columns : List Column) (rows : List Row) (session : Session)
    {location : Location}
    (hlocation : session.folder.openForWriting (path session.folder.basePath database table)
      = .ok location) :
    let file := (path session.folder.basePath database table).text
    let stats : TableStats := { table, rows := rows.length, statements := 1, path := file }
    start (writeTable ⟨escaper, .text (String.singleton delimiter), localFile⟩ database table
        columns ⟨rows, none⟩) session
      = (.ok stats, Session.logged
          { session with
            folder := (session.folder.put location []).put location
              (Csv.fileBytes escaper delimiter (columns.map Column.tag) rows)
            output := session.output
              ++ [.load ⟨file, table.toText, String.singleton delimiter, localFile⟩] }
          [⟨.debug, summary stats⟩]) := by
  simp only [writeTable, openFile, writeRows, start_bind, start_get, start_ofResult, hlocation,
    start_modify, start_pure, delimiterChar_singleton, start_emit, start_note,
    Folder.basePath_put]

/--
**Whatever rows are written to a side file, they are read back.**

The reader gets the delimiter and the bytes of the file, as they are when the statement
that loads them has been written; only a record in the log comes after that. The rows
hold any bytes, apart from the two that a cell without a value is written as.
-/
theorem writeTable_file_reads_back (escaper : Csv.Escaper) (delimiter : Char) (localFile : Bool)
    (database table : Value) (columns : List Column) (rows : List Row) (session : Session)
    (location : Location)
    (hdelimiter : delimiter ≠ '"' ∧ delimiter ≠ '\n')
    (hchars : '\\' ∉ escaper.chars ∧ 'N' ∉ escaper.chars)
    (hcolumns : columns ≠ [])
    (hrows : ∀ row ∈ rows, row.length = columns.length ∧ some [0x5C, 0x4E] ∉ row)
    (hlocation : session.folder.openForWriting (path session.folder.basePath database table)
      = .ok location) :
    ∃ (stats : TableStats) (written : Session) (file : Bytes),
      start (writeTable ⟨escaper, .text (String.singleton delimiter), localFile⟩ database table
          columns ⟨rows, none⟩) session
        = (.ok stats, written.logged [⟨.debug, summary stats⟩])
      ∧ written.folder.read? location = some file
      ∧ Csv.Reader.rows delimiter file = rows := by
  have hrun := start_writeTable escaper delimiter localFile database table columns rows session
    hlocation
  refine ⟨_, _, _, hrun, Folder.read?_put _ _ _, ?_⟩
  have htags : columns.map Column.tag ≠ [] := by simpa using hcolumns
  refine Csv.rows_fileBytes hchars.1 hchars.2 hdelimiter.1 hdelimiter.2 htags fun row hrow => ?_
  rw [List.length_map]
  exact hrows row hrow

/--
A delimiter of two bytes whose second one also stands alone in a value, next to stray
bytes that would make a character with it; quotes, newlines, delimiters and backslashes,
the letter of the sentinel by itself, and a cell of no bytes beside one without a value.
-/
theorem writeTable_file_reads_back_hostile_rows :
    let escaper : Csv.Escaper := { enabled := true, chars := ['\n', '"', 'é'] }
    let columns : List Column := [⟨.text "c", "", .varchar⟩, ⟨.text "d", "", .blob⟩]
    let rows : List Row :=
      [[some [0xC3, 0xA9, 0xC3], some [0xA9, 0xE2, 0x82]],
       [some (Text.utf8 "\"\\\n\\N\""), some (Text.utf8 "N")],
       [some [], none]]
    let session : Session := { folder := { base := [] } }
    ('é' ≠ '"' ∧ 'é' ≠ '\n')
    ∧ ('\\' ∉ escaper.chars ∧ 'N' ∉ escaper.chars)
    ∧ columns ≠ []
    ∧ (∀ row ∈ rows, row.length = columns.length ∧ some [0x5C, 0x4E] ∉ row)
    ∧ session.folder.openForWriting (path session.folder.basePath (.text "shop") (.text "orders"))
      = .ok ["shop_orders.csv"]
    ∧ ∃ (stats : TableStats) (written : Session) (file : Bytes),
      start (writeTable ⟨escaper, .text (String.singleton 'é'), true⟩ (.text "shop")
          (.text "orders") columns ⟨rows, none⟩) session
        = (.ok stats, written.logged [⟨.debug, summary stats⟩])
      ∧ written.folder.read? ["shop_orders.csv"] = some file
      ∧ Csv.Reader.rows 'é' file = rows := by
  intro escaper columns rows session
  have hdelimiter : 'é' ≠ '"' ∧ 'é' ≠ '\n' := by decide
  have hchars : '\\' ∉ escaper.chars ∧ 'N' ∉ escaper.chars := by decide
  have hrows : ∀ row ∈ rows, row.length = columns.length ∧ some [0x5C, 0x4E] ∉ row := by decide
  have hlocation : session.folder.openForWriting
      (path session.folder.basePath (.text "shop") (.text "orders"))
        = .ok ["shop_orders.csv"] := by decide +kernel
  exact ⟨hdelimiter, hchars, by decide, hrows, hlocation,
    writeTable_file_reads_back escaper 'é' true (.text "shop") (.text "orders") columns rows session
      ["shop_orders.csv"] hdelimiter hchars (by decide) hrows hlocation⟩

end DatabaseDump.Dump.SideFile
