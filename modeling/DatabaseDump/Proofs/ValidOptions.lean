import DatabaseDump.Proofs.Delimiters
import DatabaseDump.Proofs.Readings
import Mathlib.Data.List.Infix

/-!
# Options are valid

Settings have any shape. What options are made of is cut, trimmed and checked on the way, so
that options that come about hold names without blanks around them, a host without a port, a
budget between its limits, and in side files a single character between fields. `IsValid` says
so of all of them together.
-/

namespace DatabaseDump

namespace Text

/-- No blank stands at either end of a text. -/
structure IsTrimmed (s : List Char) : Prop where
  front : ∀ c ∈ s.head?, isBlank c = false
  back : ∀ c ∈ s.getLast?, isBlank c = false

theorem head?_trimLeft {s : List Char} {c : Char} (h : c ∈ (trimLeft s).head?) :
    isBlank c = false := by
  have hfirst := List.head?_dropWhile_not isBlank s
  rw [← trimLeft, Option.mem_def.mp h] at hfirst
  simpa using hfirst

/-- What is left when the end is trimmed is the front of the text. -/
theorem trimRight_prefix_self (s : List Char) : trimRight s <+: s := by
  rw [trimRight, ← List.reverse_suffix, List.reverse_reverse]
  exact List.dropWhile_suffix isBlank

/-- Trimming leaves no blank at either end. -/
theorem isTrimmed_trimChars (s : List Char) : IsTrimmed (trimChars s) where
  front := by
    intro c hc
    obtain ⟨behind, hbehind⟩ := trimRight_prefix_self (trimLeft s)
    apply head?_trimLeft (s := s)
    rw [← hbehind, List.head?_append, ← trimChars, Option.mem_def.mp hc]
    rfl
  back := by
    intro c hc
    rw [trimChars, trimRight, List.getLast?_reverse] at hc
    exact head?_trimLeft (s := (trimLeft s).reverse) hc

theorem mem_of_mem_trimChars {s : List Char} {c : Char} (h : c ∈ trimChars s) : c ∈ s :=
  (List.dropWhile_suffix isBlank).subset ((trimRight_prefix_self (trimLeft s)).subset h)

/-- The pieces of a text hold no separator. -/
theorem not_mem_of_mem_splitOnChar {separator : Char} {s piece : List Char}
    (h : piece ∈ splitOnChar separator s) : separator ∉ piece := by
  induction s generalizing piece with
  | nil =>
    obtain rfl := List.mem_singleton.mp h
    exact List.not_mem_nil
  | cons c rest ih =>
    unfold splitOnChar at h
    split at h
    · rcases List.mem_cons.mp h with rfl | hlater
      · exact List.not_mem_nil
      · exact ih hlater
    · rename_i hc
      split at h
      · obtain rfl := List.mem_singleton.mp h
        simpa using Ne.symm hc
      · rename_i first pieces hpieces
        rw [hpieces] at ih
        rcases List.mem_cons.mp h with rfl | hlater
        · rw [List.mem_cons, not_or]
          exact ⟨Ne.symm hc, ih List.mem_cons_self⟩
        · exact ih (List.mem_cons_of_mem _ hlater)

end Text

namespace Options

/-- A name that a setting may list: not empty, trimmed, and without a comma in a text. -/
structure IsNameOf (setting : Value) (name : String) : Prop where
  nonempty : name ≠ ""
  trimmed : Text.IsTrimmed name.toList
  whole : ∀ s, setting = .text s → ',' ∉ name.toList

/-- The items of a text are the pieces between its commas. -/
theorem not_mem_of_listed_text {s item : String} {items : List String}
    (h : listed (.text s) = .ok items) (hmem : item ∈ items) : ',' ∉ item.toList := by
  cases h
  obtain ⟨piece, hpiece, rfl⟩ := List.mem_map.mp hmem
  rw [String.toList_ofList]
  exact Text.not_mem_of_mem_splitOnChar hpiece

/-- The names that a setting lists are all as they may be. -/
theorem isNameOf_of_mem_names {setting : Value} {found : List String}
    (h : names setting = .ok found) {name : String} (hmem : name ∈ found) :
    IsNameOf setting name := by
  cases hlisted : listed setting with
  | error failure =>
    rw [names, hlisted] at h
    cases h
  | ok items =>
    rw [names, hlisted] at h
    cases h
    obtain ⟨htrim, hfilter⟩ := List.mem_filter.mp hmem
    obtain ⟨item, hitem, rfl⟩ := List.mem_map.mp htrim
    refine ⟨?_, ?_, ?_⟩
    · simpa using hfilter
    · rw [Text.trim, String.toList_ofList]
      exact Text.isTrimmed_trimChars item.toList
    · intro s hs
      subst hs
      rw [Text.trim, String.toList_ofList]
      exact fun hcomma =>
        not_mem_of_listed_text hlisted hitem (Text.mem_of_mem_trimChars hcomma)

/-- The databases asked for are as names may be, and there is one. -/
theorem of_requestedDatabases {settings : Fields} {found : List String}
    (h : requestedDatabases settings = .ok found) :
    found ≠ [] ∧ ∀ name ∈ found, IsNameOf (settings.getOrNull "database") name := by
  obtain ⟨databases, hnames, h⟩ := exists_of_bind_eq_ok h
  split at h
  · cases h
  · rename_i hempty
    cases h
    exact ⟨by simpa using hempty, fun name => isNameOf_of_mem_names hnames⟩

/-- A host that passes its check comes without a port. -/
theorem not_mem_of_requestedHost {settings : Fields} {host : String}
    (h : requestedHost settings = .ok host) : ':' ∉ host.toList := by
  unfold requestedHost at h
  dsimp only at h
  split at h
  · cases h
  · rename_i hcolon
    cases h
    simpa using hcolon

/-- A budget is moved between its limits. -/
theorem clamp_bounds (length : Int) : minBufferLength ≤ clamp length
    ∧ clamp length ≤ maxBufferLength := by
  have hlimits : minBufferLength ≤ maxBufferLength := by decide
  unfold clamp
  split
  · exact ⟨le_rfl, hlimits⟩
  · split
    · exact ⟨hlimits, le_rfl⟩
    · omega

/-- The code points of a delimiter that passes the check: one, and no surrogate. -/
theorem eq_singleton_of_delimiterOfCodes {codes : List Nat} {delimiter : Char}
    (hcodes : ∀ code ∈ codes, code < 0x110000) (h : delimiterOfCodes codes = .ok delimiter) :
    codes = [delimiter.toNat] ∧ isSurrogate delimiter.toNat = false := by
  refine ⟨?_, isSurrogate_toNat delimiter⟩
  match codes with
  | [] => cases h
  | [code] =>
    rw [delimiterOfCodes] at h
    split at h
    · cases h
    · rename_i hsurrogate
      have hvalid : code.isValidChar := by
        have hlimit := hcodes code List.mem_cons_self
        simp only [isSurrogate, Bool.and_eq_true, decide_eq_true_eq, not_and] at hsurrogate
        unfold Nat.isValidChar
        omega
      cases h
      rw [Char.ofNat, dif_pos hvalid]
      rfl
  | _ :: _ :: _ => cases h

/-- Options that can be dumped by, whatever shape the settings have. -/
structure IsValid (settings : Fields) (options : Options) : Prop where
  databases : ∃ found : List String, options.databases = .list (found.map .text) ∧ found ≠ []
    ∧ ∀ name ∈ found, IsNameOf (settings.getOrNull "database") name
  tables : ∃ found : List String, options.tables = .list (found.map .text)
    ∧ ∀ name ∈ found, IsNameOf (settings.getOrNull "tables") name
  host : ':' ∉ options.host.toList
  bufferLength : ∃ length : Int, options.bufferLength = .int length
    ∧ 16384 ≤ length ∧ length ≤ 16777216
  delimiter : options.format = .csv → ∃ s : String, options.delimiter = .text s
    ∧ ∃ c, s.toList = [c] ∧ isSurrogate c.toNat = false

/--
Settings of any shape give options that are valid, or none at all. What is checked of a
delimiter are its code points, also those that no text can hold.
-/
theorem options_of_settings_are_valid :
    (∀ settings options, ofSettings settings = .ok options → IsValid settings options)
    ∧ ∀ codes delimiter, (∀ code ∈ codes, code < 0x110000) →
      delimiterOfCodes codes = .ok delimiter →
      codes = [delimiter.toNat] ∧ isSurrogate delimiter.toNat = false := by
  constructor
  · intro settings options h
    have hshows := Readings.shows_of_options_eq_ok ((ofSettings_eq settings).symm.trans h)
    obtain ⟨databases, hdatabases, hfound⟩ := hshows.databases
    obtain ⟨hne, hnames⟩ := of_requestedDatabases hdatabases
    obtain ⟨tables, htables, hlisted⟩ := hshows.tables
    obtain ⟨length, -, hlength⟩ := hshows.length
    refine ⟨⟨databases, hfound, hne, hnames⟩, ⟨tables, hlisted, ?_⟩, ?_, ?_, ?_⟩
    · exact fun name => isNameOf_of_mem_names htables
    · exact not_mem_of_requestedHost hshows.host
    · exact ⟨clamp length, hlength, clamp_bounds length⟩
    · intro hformat
      obtain ⟨delimiter, hdelimiter⟩ := exists_delimiter_of_ofSettings h hformat
      exact ⟨_, hdelimiter, delimiter, String.toList_singleton delimiter,
        isSurrogate_toNat delimiter⟩
  · intro codes delimiter
    exact eq_singleton_of_delimiterOfCodes

/-- Names between blanks and commas, a budget that is too small, and a tab between fields. -/
def looseSettings : Fields :=
  [("database", .text " shop ,, \tyard\n"), ("tables", .list [.int 7]),
    ("net_buffer_length", .text " 1_0 "), ("csv", .int 1), ("csv_field_delimiter", .text "\t")]

theorem options_of_settings_are_valid_loose :
    ∃ options, ofSettings looseSettings = .ok options ∧ IsValid looseSettings options :=
  ⟨_, rfl, options_of_settings_are_valid.1 looseSettings _ rfl⟩

end Options

end DatabaseDump
