import DatabaseDump.Proofs.Sentinel

/-!
# Fields byte by byte

A field is made of symbols, but what it stands for are bytes. Doubling backslashes and putting
backslashes before characters could as well be done with the bytes: an ASCII character is one
byte, which occurs in no other encoding, and stray bytes lie beyond ASCII. So it does not matter
whether a value is valid UTF-8, and no bytes are brought together or apart.
-/

namespace DatabaseDump

namespace Text

/-- The encoding of a code point in ASCII is one byte. -/
theorem Encoding.eq_singleton {code : Nat} {bytes : Bytes} (h : Encoding code bytes)
    (hcode : code < 0x80) : ∃ b : UInt8, bytes = [b] ∧ b.toNat = code := by
  cases h with
  | one hb => exact ⟨_, rfl, rfl⟩
  | two hb hc heq => omega
  | three hb hc hd heq hvalid => omega
  | four hb hc hd he heq hvalid => omega

/-- A byte in ASCII opens with a character. -/
theorem toNat_ge_of_leadingChar?_eq_none {b : UInt8} {rest : Bytes}
    (h : leadingChar? (b :: rest) = none) : 0x80 ≤ b.toNat := by
  by_contra hb
  have hread := (Encoding.one (Nat.lt_of_not_le hb)).leadingChar?_append rest
  rw [List.singleton_append, h] at hread
  cases hread

/-- Symbols whose stray bytes lie beyond ASCII. -/
def StraysBeyondAscii (field : List Symbol) : Prop := ∀ b, .stray b ∈ field → 0x80 ≤ b.toNat

theorem straysBeyondAscii_symbols (bytes : Bytes) : StraysBeyondAscii (symbols bytes) := by
  induction bytes using bytes_induction with
  | nil =>
    intro b hb
    cases hb
  | char c rest ih =>
    intro b hb
    rw [symbols_encode_append, List.mem_cons] at hb
    rcases hb with heq | hlater
    · cases heq
    · exact ih b hlater
  | stray b' rest hnone ih =>
    intro b hb
    rw [symbols_cons_of_none hnone, List.mem_cons] at hb
    rcases hb with heq | hlater
    · cases heq
      exact toNat_ge_of_leadingChar?_eq_none hnone
    · exact ih b hlater

/-- What is done symbol by symbol can be done byte by byte. -/
theorem bytesOf_flatMap {f : Symbol → List Symbol} {g : UInt8 → Bytes} {field : List Symbol}
    (h : ∀ s ∈ field, bytesOf (f s) = s.bytes.flatMap g) :
    bytesOf (field.flatMap f) = (bytesOf field).flatMap g := by
  rw [bytesOf, bytesOf, List.flatMap_assoc, List.flatMap_assoc]
  exact List.flatMap_congr h

end Text

namespace Csv

open Text

/-- One byte with backslashes doubled. -/
def doubledByte (b : UInt8) : Bytes := if b = 0x5C then [b, b] else [b]

namespace Escaper

/-- One byte, with a backslash before it when it is among the characters. -/
def escapedByte (chars : List Char) (b : UInt8) : Bytes :=
  if chars.any fun c => c.toNat = b.toNat then [0x5C, b] else [b]

variable {chars : List Char}

theorem escapedByte_of_mem {c : Char} {b : UInt8} (hc : c ∈ chars) (hb : c.toNat = b.toNat) :
    escapedByte chars b = [0x5C, b] := by
  rw [escapedByte, if_pos]
  simpa using ⟨c, hc, hb⟩

theorem escapedByte_of_forall {b : UInt8} (h : ∀ c ∈ chars, c.toNat ≠ b.toNat) :
    escapedByte chars b = [b] := by
  rw [escapedByte, if_neg]
  simpa using h

/-- To escape a symbol is to escape its bytes. -/
theorem bytesOf_escapedSymbol (hchars : ∀ c ∈ chars, c.toNat < 0x80) {s : Symbol}
    (hs : ∀ b, s = .stray b → 0x80 ≤ b.toNat) :
    bytesOf (escapedSymbol chars s) = s.bytes.flatMap (escapedByte chars) := by
  cases s with
  | stray b =>
    have hb := hs b rfl
    have hkept : escapedByte chars b = [b] := by
      apply escapedByte_of_forall
      intro c hc heq
      have hascii := hchars c hc
      omega
    rw [Symbol.bytes, List.flatMap_singleton, hkept]
    rfl
  | char c =>
    have hencoding : Encoding c.toNat (Symbol.char c).bytes := encoding_encode c
    by_cases hc : c ∈ chars
    · obtain ⟨b, hbytes, hb⟩ := hencoding.eq_singleton (hchars c hc)
      have hescaped : escapedSymbol chars (.char c) = [.char '\\', .char c] :=
        if_pos (by simpa using hc)
      have hbackslash : (Symbol.char '\\').bytes = [0x5C] := by decide
      rw [hescaped, bytesOf, List.flatMap_cons, List.flatMap_singleton, hbackslash, hbytes,
        List.flatMap_singleton, escapedByte_of_mem hc hb.symm]
      rfl
    · have hescaped : escapedSymbol chars (.char c) = [.char c] := if_neg (by simpa using hc)
      have hkept : ∀ b ∈ (Symbol.char c).bytes, escapedByte chars b = [b] := by
        intro b hb
        apply escapedByte_of_forall
        intro d hd heq
        -- an ASCII byte of the encoding would be all of it
        have hascii := hchars d hd
        have hcode := (hencoding.mem_iff (by omega)).mp hb
        have hsame : c = d := by
          rw [← Char.ofNat_toNat c, ← Char.ofNat_toNat d, hcode, heq]
        exact hc (hsame ▸ hd)
      rw [hescaped, List.flatMap_congr hkept, List.flatMap_singleton']
      simp [bytesOf]

theorem bytesOf_flatMap_escapedSymbol (hchars : ∀ c ∈ chars, c.toNat < 0x80)
    {field : List Symbol} (hfield : StraysBeyondAscii field) :
    bytesOf (field.flatMap (escapedSymbol chars))
      = (bytesOf field).flatMap (escapedByte chars) := by
  apply bytesOf_flatMap
  intro s hs
  apply bytesOf_escapedSymbol hchars
  intro b heq
  subst heq
  exact hfield b hs

theorem straysBeyondAscii_flatMap {field : List Symbol}
    (h : StraysBeyondAscii field) (chars : List Char) :
    StraysBeyondAscii (field.flatMap (escapedSymbol chars)) := by
  intro b hb
  obtain ⟨s, hs, hmem⟩ := List.mem_flatMap.mp hb
  rcases escapedSymbol_cases chars s with ⟨⟨c, -, rfl⟩, heq⟩ | heq
  · simp [heq] at hmem
  · rw [heq, List.mem_singleton] at hmem
    subst hmem
    exact h b hs

end Escaper

open Escaper

/-- Doubling is escaping of the backslash alone. -/
theorem doubled_eq (s : Symbol) : doubled s = escapedSymbol ['\\'] s := by
  cases s with
  | stray b => rfl
  | char c =>
    by_cases hc : c = '\\'
    · subst hc
      rfl
    · simp [doubled, escapedSymbol, hc]

theorem doubledByte_eq (b : UInt8) : doubledByte b = escapedByte ['\\'] b := by
  by_cases hb : b = 0x5C
  · subst hb
    rfl
  · have hne : ¬0x5C = b.toNat := fun heq => hb (UInt8.toNat_inj.mp heq.symm)
    simp [doubledByte, escapedByte, hb, hne]

/-- The field of a value other than the sentinel. -/
theorem field_eq_flatMap {value : Bytes} (h : value ≠ [0x5C, 0x4E]) :
    field (some value) = (symbols value).flatMap (escapedSymbol ['\\']) := by
  have hne : symbols value ≠ sentinel := by
    intro hsentinel
    exact h ((symbols_eq_sentinel_iff value).mp hsentinel)
  rw [field, doubleBackslashes, if_neg hne]
  exact List.flatMap_congr fun s _ => doubled_eq s

/-- The bytes of a field are those of the value, with backslashes doubled. -/
theorem bytesOf_field {value : Bytes} (h : value ≠ [0x5C, 0x4E]) :
    bytesOf (field (some value)) = value.flatMap doubledByte := by
  have hascii : ∀ c ∈ ['\\'], c.toNat < 0x80 := by simp
  rw [field_eq_flatMap h, bytesOf_flatMap_escapedSymbol hascii (straysBeyondAscii_symbols value),
    bytesOf_symbols]
  exact List.flatMap_congr fun b _ => (doubledByte_eq b).symm

/--
Every value but the sentinel is written as its bytes with backslashes doubled, valid UTF-8 or
not. Where ASCII characters of texts are escaped, each of their bytes gets a backslash more.
-/
theorem bytes_of_fields (value : Bytes) (h : value ≠ [0x5C, 0x4E]) (escaper : Escaper)
    (tag : TypeTag) :
    bytesOf (field (some value)) = value.flatMap doubledByte
    ∧ (escaper.enabled = false ∨ tag.isString = false →
      bytesOf (escaper.encode tag (some value)) = value.flatMap doubledByte)
    ∧ (escaper.enabled = true → tag.isString = true → (∀ c ∈ escaper.chars, c.toNat < 0x80) →
      bytesOf (escaper.encode tag (some value))
        = (value.flatMap doubledByte).flatMap (escapedByte escaper.chars)) := by
  refine ⟨bytesOf_field h, ?_, ?_⟩
  · intro hoff
    have hkept : ¬(escaper.enabled && tag.isString) = true := by
      rcases hoff with hoff | hoff
      · simp [hoff]
      · simp [hoff]
    rw [encode, if_neg hkept]
    exact bytesOf_field h
  · intro henabled hstring hchars
    have hon : (escaper.enabled && tag.isString) = true := by simp [henabled, hstring]
    have hne : field (some value) ≠ sentinel := by
      rw [Ne, field_eq_sentinel_iff]
      simpa using h
    have hfield : StraysBeyondAscii (field (some value)) := by
      rw [field_eq_flatMap h]
      exact straysBeyondAscii_flatMap (straysBeyondAscii_symbols value) ['\\']
    rw [encode, if_pos hon, escape, if_neg hne, bytesOf_flatMap_escapedSymbol hchars hfield,
      bytesOf_field h]

/-- A backslash, the two halves of a newline written too long, and a truncated character. -/
theorem bytes_of_fields_broken :
    bytesOf (encode ⟨true, ['\n', '"']⟩ .varchar (some [0x5C, 0xC0, 0x8A, 0x0A, 0xE2, 0x82, 0x22]))
      = [0x5C, 0x5C, 0xC0, 0x8A, 0x5C, 0x0A, 0xE2, 0x82, 0x5C, 0x22] :=
  (bytes_of_fields [0x5C, 0xC0, 0x8A, 0x0A, 0xE2, 0x82, 0x22] (by decide) ⟨true, ['\n', '"']⟩
    .varchar).2.2 rfl rfl (by simp)

end Csv

end DatabaseDump
