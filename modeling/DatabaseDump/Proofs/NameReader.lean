import DatabaseDump.Proofs.RawTexts
import DatabaseDump.Proofs.Utf8
import DatabaseDump.Sql.Statement

/-!
# Names between back-ticks

A server reads a name up to the first back-tick, where two of them in a row stand for one
that belongs to the name. Names are put between back-ticks as they are, so a name is read back
exactly when it holds none: `name_eq_some_iff`.

With a back-tick in it, a name ends early or reading falls behind by one byte, and then it
stays behind. Only what follows could make up for that, and it would have to begin with a
back-tick of its own. So a text that is composed of words and names is read back name by
name as long as words stand between the names: `Composition.IsApart.isRead_iff`.
-/

namespace DatabaseDump.Sql

open Text (utf8)

/-- The back-tick. -/
def backtick : UInt8 := 0x60

namespace Reader

/-- A name up to its closing back-tick, and what follows. Two back-ticks stand for one. -/
def name : Bytes → Option (Bytes × Bytes)
  | [] => none
  | [b] => if b = backtick then some ([], []) else none
  | b :: c :: rest =>
    if b ≠ backtick then (name (c :: rest)).map fun (value, left) => (b :: value, left)
    else if c = backtick then (name rest).map fun (value, left) => (b :: value, left)
    else some ([], c :: rest)

theorem name_backtick {rest : Bytes} (h : rest.head? ≠ some backtick) :
    name (backtick :: rest) = some ([], rest) := by
  cases rest with
  | nil => rfl
  | cons c rest =>
    have hc : c ≠ backtick := fun heq => h (congrArg some heq)
    rw [name, if_neg (not_not.mpr rfl), if_neg hc]

theorem name_doubled (rest : Bytes) :
    name (backtick :: backtick :: rest)
      = (name rest).map fun (value, left) => (backtick :: value, left) := by
  rw [name, if_neg (not_not.mpr rfl), if_pos rfl]

theorem name_other {b : UInt8} (h : b ≠ backtick) (rest : Bytes) :
    name (b :: rest) = (name rest).map fun (value, left) => (b :: value, left) := by
  cases rest with
  | nil => simp [name, h]
  | cons c rest => rw [name, if_pos h]

variable {value rest left : Bytes}

/-- Where no back-tick comes first, neither an empty name nor one of back-ticks alone is read. -/
theorem name_ne_replicate (h : rest.head? ≠ some backtick) (count : Nat) :
    name rest ≠ some (List.replicate count backtick, left) := by
  intro hread
  cases rest with
  | nil => cases hread
  | cons b rest =>
    have hb : b ≠ backtick := fun heq => h (congrArg some heq)
    rw [name_other hb] at hread
    cases count with
    | zero =>
      obtain ⟨found, -, heq⟩ := Option.map_eq_some_iff.mp hread
      cases heq
    | succ count => exact hb (eq_of_map_cons hread).1

/--
Reading that has fallen behind by some back-ticks never catches up: neither a name nor a name
behind one more back-tick is read as the name behind `count + 1` of them.
-/
theorem name_ne_of_behind (hrest : rest.head? ≠ some backtick) (value left : Bytes) (count : Nat) :
    name (value ++ backtick :: rest)
        ≠ some (backtick :: (List.replicate count backtick ++ value), left)
    ∧ name (backtick :: (value ++ backtick :: rest))
        ≠ some (backtick :: (List.replicate count backtick ++ value), left) := by
  induction value generalizing count with
  | nil =>
    rw [List.nil_append, List.append_nil, name_backtick hrest, name_doubled]
    constructor
    · intro hread
      cases hread
    · intro hread
      -- the closing back-tick is taken for one of the name
      exact name_ne_replicate hrest count (eq_of_map_cons hread).2
  | cons b value ih =>
    by_cases hb : b = backtick
    · subst hb
      rw [List.cons_append, replicate_append_cons, name_doubled]
      constructor
      · -- the back-tick is read together with what comes next
        exact (ih (count + 1)).2
      · -- two back-ticks are read as one, so reading is still behind
        intro hread
        exact (ih count).1 (eq_of_map_cons hread).2
    · rw [List.cons_append]
      constructor
      · intro hread
        rw [name_other hb] at hread
        exact hb (eq_of_map_cons hread).1
      · -- a back-tick that stands alone ends the name at once
        intro hread
        rw [name_backtick (by simpa using hb)] at hread
        cases hread

/-- **A name between back-ticks is read back exactly when it holds none.** -/
theorem name_eq_some_iff (hrest : rest.head? ≠ some backtick) :
    name (value ++ backtick :: rest) = some (value, left) ↔ backtick ∉ value ∧ left = rest := by
  induction value with
  | nil => simp [name_backtick hrest, eq_comm]
  | cons b value ih =>
    rw [List.cons_append]
    by_cases hb : b = backtick
    · subst hb
      simpa using (name_ne_of_behind hrest value left 0).2
    · rw [name_other hb, List.mem_cons, not_or, and_assoc, ← ih]
      constructor
      · intro hread
        exact ⟨Ne.symm hb, (eq_of_map_cons hread).2⟩
      · rintro ⟨-, hread⟩
        rw [hread]
        rfl

/-- The names of a text, each behind some words, and what follows the last one. -/
def names : (words : List String) → Bytes → Option (List Bytes × Bytes)
  | [], bytes => some ([], bytes)
  | first :: words, bytes => do
    let (value, left) ← name (← bytes.dropPrefix? (utf8 first ++ [backtick]))
    let (values, left) ← names words left
    return (value :: values, left)

end Reader

/-! ## Texts with names in them -/

/-- A text with names between back-ticks. -/
structure Composition where
  /-- Some words and a name, in turns. -/
  parts : List (String × String) := []
  rest : Bytes := []

namespace Composition

/-- The names in a text. -/
def names (composition : Composition) : List String := composition.parts.map Prod.snd

/-- The bytes from some parts on. -/
def bytesFrom (rest : Bytes) (parts : List (String × String)) : Bytes :=
  parts.flatMap (fun part => utf8 (part.1 ++ identifier part.2)) ++ rest

/-- The bytes of a text. -/
def bytes (composition : Composition) : Bytes := bytesFrom composition.rest composition.parts

/-- The names are read from where they stand, and after them the rest is left. -/
def IsRead (composition : Composition) : Prop :=
  Reader.names (composition.parts.map Prod.fst) composition.bytes
    = some (composition.names.map utf8, composition.rest)

instance (composition : Composition) : Decidable composition.IsRead :=
  inferInstanceAs (Decidable (_ = _))

/-- Bytes that keep two names apart: there are some, and no back-tick comes first. -/
def Separates (bytes : Bytes) : Prop := ∃ b ∈ bytes.head?, b ≠ backtick

instance (bytes : Bytes) : Decidable (Separates bytes) :=
  inferInstanceAs (Decidable (∃ b ∈ bytes.head?, b ≠ backtick))

theorem Separates.append {bytes : Bytes} (h : Separates bytes) (more : Bytes) :
    Separates (bytes ++ more) := by
  obtain ⟨b, hb, hne⟩ := h
  exact ⟨b, List.mem_head?_append_of_mem_head? hb, hne⟩

theorem Separates.head?_ne {bytes : Bytes} (h : Separates bytes) :
    bytes.head? ≠ some backtick := by
  obtain ⟨b, hb, hne⟩ := h
  rintro hbacktick
  rw [hbacktick] at hb
  exact hne (Option.some.inj hb).symm

/-- No name is followed by another back-tick than its own. -/
structure IsApart (composition : Composition) : Prop where
  words : ∀ part ∈ composition.parts, Separates (utf8 part.1)
  rest : composition.parts ≠ [] → composition.rest.head? ≠ some backtick

theorem isApart_nil (rest : Bytes) : IsApart ⟨[], rest⟩ where
  words := nofun
  rest := fun hne => absurd rfl hne

theorem IsApart.cons {words : String} {parts : List (String × String)} {rest : Bytes}
    (h : IsApart ⟨parts, rest⟩) (hwords : Separates (utf8 words))
    (hrest : rest.head? ≠ some backtick) (name : String) :
    IsApart ⟨(words, name) :: parts, rest⟩ where
  words := List.forall_mem_cons.mpr ⟨hwords, h.words⟩
  rest := fun _ => hrest

theorem isApart_one {words : String} {rest : Bytes} (hwords : Separates (utf8 words))
    (hrest : rest.head? ≠ some backtick) (name : String) : IsApart ⟨[(words, name)], rest⟩ :=
  (isApart_nil rest).cons hwords hrest name

theorem utf8_part (words name : String) :
    utf8 (words ++ identifier name) = utf8 words ++ backtick :: (utf8 name ++ [backtick]) := by
  have hmark : utf8 "`" = [backtick] := by decide
  simp only [identifier, Text.utf8_append, hmark, List.cons_append, List.nil_append]

theorem bytesFrom_cons (rest : Bytes) (words name : String) (parts : List (String × String)) :
    bytesFrom rest ((words, name) :: parts)
      = utf8 words ++ [backtick] ++ (utf8 name ++ backtick :: bytesFrom rest parts) := by
  simp [bytesFrom, utf8_part]

section
variable {rest : Bytes} {parts : List (String × String)}
  (hwords : ∀ part ∈ parts, Separates (utf8 part.1))
include hwords

theorem head?_bytesFrom (hrest : rest.head? ≠ some backtick) :
    (bytesFrom rest parts).head? ≠ some backtick := by
  cases parts with
  | nil => exact hrest
  | cons part parts =>
    rw [bytesFrom_cons, List.append_assoc]
    exact ((hwords part List.mem_cons_self).append _).head?_ne

theorem names_bytesFrom_iff (hrest : parts ≠ [] → rest.head? ≠ some backtick) :
    Reader.names (parts.map Prod.fst) (bytesFrom rest parts)
        = some ((parts.map Prod.snd).map utf8, rest)
      ↔ ∀ name ∈ parts.map Prod.snd, backtick ∉ utf8 name := by
  induction parts with
  | nil => simp [Reader.names, bytesFrom]
  | cons part parts ih =>
    obtain ⟨words, name⟩ := part
    have hrest := hrest (List.cons_ne_nil _ _)
    obtain ⟨-, hwords⟩ := List.forall_mem_cons.mp hwords
    have hname {left : Bytes} :
        Reader.name (utf8 name ++ backtick :: bytesFrom rest parts) = some (utf8 name, left)
          ↔ backtick ∉ utf8 name ∧ left = bytesFrom rest parts :=
      Reader.name_eq_some_iff (head?_bytesFrom hwords hrest)
    have hopened : (bytesFrom rest ((words, name) :: parts)).dropPrefix? (utf8 words ++ [backtick])
        = some (utf8 name ++ backtick :: bytesFrom rest parts) := by
      rw [bytesFrom_cons]
      exact List.dropPrefix?_append_of_beq _ BEq.rfl
    rw [List.map_cons, List.map_cons, List.map_cons, List.forall_mem_cons,
      ← ih hwords fun _ => hrest, Reader.names, hopened]
    constructor
    · intro hread
      change Option.bind (Reader.name _) _ = _ at hread
      obtain ⟨⟨value, left⟩, hvalue, hread⟩ := Option.bind_eq_some_iff.mp hread
      obtain ⟨⟨values, left'⟩, hvalues, heq⟩ := Option.bind_eq_some_iff.mp hread
      cases heq
      obtain ⟨hmark, rfl⟩ := hname.mp hvalue
      exact ⟨hmark, hvalues⟩
    · rintro ⟨hmark, hvalues⟩
      change Option.bind (Reader.name _) _ = _
      rw [hname.mpr ⟨hmark, rfl⟩]
      change Option.bind (Reader.names _ _) _ = _
      rw [hvalues]
      rfl

end

/-- **The names of a text are read back exactly when none of them holds a back-tick.** -/
theorem IsApart.isRead_iff {composition : Composition} (h : composition.IsApart) :
    composition.IsRead ↔ ∀ name ∈ composition.names, '`' ∉ name.toList := by
  have hmark (name : String) : backtick ∈ utf8 name ↔ '`' ∈ name.toList :=
    Text.mem_utf8_iff (by decide) (by decide) name
  simp only [← hmark]
  exact names_bytesFrom_iff h.words h.rest

end Composition

end DatabaseDump.Sql
