import DatabaseDump.Text.Utf8
import Mathlib.Data.List.Basic

/-!
# Bytes and symbols

Reading bytes as symbols and writing the symbols loses nothing, whatever the bytes are.
The other direction needs care: stray bytes that are moved next to each other can make a
character. `IsRead` is what keeps them apart, it holds of everything that was read, and
it stays true when characters are put between the symbols.

`Encoding` lists the encodings by their width. The first byte decides the width and the
ranges of the others do not meet its own, so whether bytes open with a character is
settled within the bytes of that character.
-/

namespace DatabaseDump.Text

/-! ## Encodings -/

/-- The encodings of code points, one constructor for each width. -/
inductive Encoding : Nat → Bytes → Prop
  | one {b : UInt8} (hb : b.toNat < 0x80) : Encoding b.toNat [b]
  | two {b c : UInt8} {code : Nat} (hb : 0xC2 ≤ b.toNat ∧ b.toNat < 0xE0) (hc : isContinuation c)
      (hcode : code = (b.toNat - 0xC0) * 64 + payload c) : Encoding code [b, c]
  | three {b c d : UInt8} {code : Nat} (hb : 0xE0 ≤ b.toNat ∧ b.toNat < 0xF0)
      (hc : isContinuation c) (hd : isContinuation d)
      (hcode : code = (b.toNat - 0xE0) * 4096 + payload c * 64 + payload d)
      (hvalid : 0x800 ≤ code ∧ code < 0xD800 ∨ 0xDFFF < code) : Encoding code [b, c, d]
  | four {b c d e : UInt8} {code : Nat} (hb : 0xF0 ≤ b.toNat ∧ b.toNat < 0xF5)
      (hc : isContinuation c) (hd : isContinuation d) (he : isContinuation e)
      (hcode : code = (b.toNat - 0xF0) * 262144 + payload c * 4096 + payload d * 64 + payload e)
      (hvalid : 0x10000 ≤ code ∧ code ≤ 0x10FFFF) : Encoding code [b, c, d, e]

theorem isContinuation_iff (b : UInt8) :
    isContinuation b = true ↔ 0x80 ≤ b.toNat ∧ b.toNat < 0xC0 := by
  simp only [isContinuation, UInt8.le_iff_toNat_le, UInt8.reduceToNat, Bool.and_eq_true,
    decide_eq_true_eq]
  omega

/-- An encoding is read as its character, whatever follows. -/
theorem Encoding.leadingChar?_append {code : Nat} {bytes : Bytes} (h : Encoding code bytes)
    (rest : Bytes) : leadingChar? (bytes ++ rest) = some (Char.ofNat code, bytes.length) := by
  rw [leadingChar?.eq_def]
  cases h with
  | one hb =>
    simp only [List.cons_append, UInt8.lt_iff_toNat_lt, UInt8.reduceToNat, if_pos hb]
    rfl
  | @two b c code hb hc hcode =>
    simp only [List.cons_append, UInt8.lt_iff_toNat_lt, UInt8.reduceToNat, ← hcode]
    rw [if_neg (by omega), if_neg (by omega), if_pos hb.2, if_pos hc]
    rfl
  | @three b c d code hb hc hd hcode hvalid =>
    simp only [List.cons_append, UInt8.lt_iff_toNat_lt, UInt8.reduceToNat, ← hcode, hc, hd,
      Bool.true_and, Bool.and_eq_true, Bool.not_eq_true', Bool.and_eq_false_iff, decide_eq_true_eq,
      decide_eq_false_iff_not]
    rw [if_neg (by omega), if_neg (by omega), if_neg (by omega), if_pos hb.2, if_pos (by omega)]
    rfl
  | @four b c d e code hb hc hd he hcode hvalid =>
    simp only [List.cons_append, UInt8.lt_iff_toNat_lt, UInt8.reduceToNat, ← hcode, hc, hd, he,
      Bool.true_and, Bool.and_eq_true, decide_eq_true_eq]
    rw [if_neg (by omega), if_neg (by omega), if_neg (by omega), if_neg (by omega), if_pos hb.2,
      if_pos hvalid]
    rfl

theorem val_ofNat {n : Nat} (h : n < 0xD800 ∨ 0xDFFF < n ∧ n < 0x110000) :
    (Char.ofNat n).val.toNat = n := by
  have hvalid : n.isValidChar := h
  have hchar : Char.ofNat n = Char.ofNatAux n hvalid := dif_pos hvalid
  rw [hchar]
  rfl

/-- An encoding is the one its character is written as. -/
theorem Encoding.eq_encode {code : Nat} {bytes : Bytes} (h : Encoding code bytes) :
    String.utf8EncodeChar (Char.ofNat code) = bytes := by
  -- the width bounds the code, and surrogates were ruled out
  have hval : (Char.ofNat code).val.toNat = code := by
    apply val_ofNat
    cases h with
    | one hb => omega
    | two hb hc hcode =>
      rw [payload] at hcode
      omega
    | three hb hc hd hcode hvalid =>
      rw [payload, payload] at hcode
      omega
    | four hb hc hd he hcode hvalid => omega
  unfold String.utf8EncodeChar
  rw [hval]
  cases h with
  | one hb =>
    rw [if_pos (by omega), UInt8.ofNat_toNat]
  | @two b c code hb hc hcode =>
    rw [isContinuation_iff] at hc
    rw [payload] at hcode
    have h₁ : code / 64 % 0x20 + 0xC0 = b.toNat := by omega
    have h₂ : code % 64 + 0x80 = c.toNat := by omega
    rw [if_neg (by omega), if_pos (by omega), h₁, h₂, UInt8.ofNat_toNat, UInt8.ofNat_toNat]
  | @three b c d code hb hc hd hcode hvalid =>
    rw [isContinuation_iff] at hc hd
    rw [payload, payload] at hcode
    have h₁ : code / 4096 % 0x10 + 0xE0 = b.toNat := by omega
    have h₂ : code / 64 % 0x40 + 0x80 = c.toNat := by omega
    have h₃ : code % 64 + 0x80 = d.toNat := by omega
    rw [if_neg (by omega), if_neg (by omega), if_pos (by omega), h₁, h₂, h₃, UInt8.ofNat_toNat,
      UInt8.ofNat_toNat, UInt8.ofNat_toNat]
  | @four b c d e code hb hc hd he hcode hvalid =>
    rw [isContinuation_iff] at hc hd he
    rw [payload, payload, payload] at hcode
    have h₁ : code / 262144 % 0x08 + 0xF0 = b.toNat := by omega
    have h₂ : code / 4096 % 0x40 + 0x80 = c.toNat := by omega
    have h₃ : code / 64 % 0x40 + 0x80 = d.toNat := by omega
    have h₄ : code % 64 + 0x80 = e.toNat := by omega
    rw [if_neg (by omega), if_neg (by omega), if_neg (by omega), h₁, h₂, h₃, h₄,
      UInt8.ofNat_toNat, UInt8.ofNat_toNat, UInt8.ofNat_toNat, UInt8.ofNat_toNat]

/-- A byte of an encoding after the first one. -/
theorem toNat_tail (n : Nat) : (UInt8.ofNat (n % 64 + 0x80)).toNat = n % 64 + 0x80 := by
  rw [UInt8.toNat_ofNat']
  omega

theorem isContinuation_tail (n : Nat) : isContinuation (UInt8.ofNat (n % 64 + 0x80)) = true := by
  rw [isContinuation_iff, toNat_tail]
  omega

theorem payload_tail (n : Nat) : payload (UInt8.ofNat (n % 64 + 0x80)) = n % 64 := by
  rw [payload, toNat_tail]
  omega

/-- Every character is written as an encoding. -/
theorem encoding_encode (c : Char) : Encoding c.val.toNat (String.utf8EncodeChar c) := by
  have hvalid : c.val.toNat < 0xD800 ∨ 0xDFFF < c.val.toNat ∧ c.val.toNat < 0x110000 := c.valid
  unfold String.utf8EncodeChar
  dsimp only
  generalize c.val.toNat = n at hvalid
  split
  · have hb : (UInt8.ofNat n).toNat = n := by
      rw [UInt8.toNat_ofNat']
      omega
    have h : Encoding (UInt8.ofNat n).toNat [UInt8.ofNat n] := .one (by omega)
    rwa [hb] at h
  split
  · have hb : (UInt8.ofNat (n / 64 % 0x20 + 0xC0)).toNat = n / 64 + 0xC0 := by
      rw [UInt8.toNat_ofNat']
      omega
    refine .two (by omega) (isContinuation_tail _) ?_
    rw [hb, payload_tail]
    omega
  split
  · have hb : (UInt8.ofNat (n / 4096 % 0x10 + 0xE0)).toNat = n / 4096 + 0xE0 := by
      rw [UInt8.toNat_ofNat']
      omega
    refine .three (by omega) (isContinuation_tail _) (isContinuation_tail _) ?_ (by omega)
    rw [hb, payload_tail, payload_tail]
    omega
  · have hb : (UInt8.ofNat (n / 262144 % 0x08 + 0xF0)).toNat = n / 262144 + 0xF0 := by
      rw [UInt8.toNat_ofNat']
      omega
    refine .four (by omega) (isContinuation_tail _) (isContinuation_tail _)
      (isContinuation_tail _) ?_ (by omega)
    rw [hb, payload_tail, payload_tail, payload_tail]
    omega

/-- What is read as a character is an encoding. -/
theorem exists_encoding {bytes : Bytes} {c : Char} {width : Nat}
    (h : leadingChar? bytes = some (c, width)) :
    ∃ code front rest, Encoding code front ∧ bytes = front ++ rest ∧ c = Char.ofNat code
      ∧ width = front.length := by
  unfold leadingChar? at h
  simp only [UInt8.lt_iff_toNat_lt, UInt8.reduceToNat] at h
  split at h
  · cases h
  rename_i b rest
  split at h
  · rename_i hb
    cases h
    exact ⟨_, [b], rest, .one hb, rfl, rfl, rfl⟩
  split at h
  · cases h
  split at h
  · split at h
    · rename_i c rest
      split at h
      · cases h
        exact ⟨_, [b, c], rest, .two (by omega) ‹_› rfl, rfl, rfl, rfl⟩
      · cases h
    · cases h
  split at h
  · split at h
    · rename_i c d rest
      split at h
      · rename_i hcond
        cases h
        simp only [Bool.and_eq_true, Bool.not_eq_true', Bool.and_eq_false_iff, decide_eq_true_eq,
          decide_eq_false_iff_not] at hcond
        exact ⟨_, [b, c, d], rest, .three (by omega) hcond.1.1.1 hcond.1.1.2 rfl (by omega), rfl,
          rfl, rfl⟩
      · cases h
    · cases h
  split at h
  · split at h
    · rename_i c d e rest
      split at h
      · rename_i hcond
        cases h
        simp only [Bool.and_eq_true, decide_eq_true_eq] at hcond
        exact ⟨_, [b, c, d, e], rest,
          .four (by omega) hcond.1.1.1.1 hcond.1.1.1.2 hcond.1.1.2 rfl (by omega), rfl, rfl, rfl⟩
      · cases h
    · cases h
  · cases h

/-- Only the first byte of an encoding does not continue it. -/
theorem Encoding.exists_cons {code : Nat} {bytes : Bytes} (h : Encoding code bytes) :
    ∃ b tail, bytes = b :: tail ∧ isContinuation b = false
      ∧ ∀ c ∈ tail, isContinuation c = true := by
  have hfirst {b : UInt8} (hb : b.toNat < 0x80 ∨ 0xC0 ≤ b.toNat) : isContinuation b = false := by
    rw [← Bool.not_eq_true, isContinuation_iff]
    omega
  cases h with
  | one hb => exact ⟨_, _, rfl, hfirst (by omega), by simp⟩
  | two hb hc hcode => exact ⟨_, _, rfl, hfirst (by omega), by simpa using hc⟩
  | three hb hc hd hcode hvalid => exact ⟨_, _, rfl, hfirst (by omega), by simpa using ⟨hc, hd⟩⟩
  | four hb hc hd he hcode hvalid =>
    exact ⟨_, _, rfl, hfirst (by omega), by simpa using ⟨hc, hd, he⟩⟩

/-- The bytes below 0x80 stand only for the characters with their numbers. -/
theorem Encoding.mem_iff {code : Nat} {bytes : Bytes} (h : Encoding code bytes) {b : UInt8}
    (hb : b.toNat < 0x80) : b ∈ bytes ↔ code = b.toNat := by
  -- a longer encoding has only bytes from 0x80 on, and so is its code
  have hlonger (hcode : 0x80 ≤ code) (hbytes : ∀ c ∈ bytes, 0x80 ≤ c.toNat) :
      b ∈ bytes ↔ code = b.toNat := by
    constructor
    · intro hmem
      have := hbytes b hmem
      omega
    · intro heq
      omega
  cases h with
  | one =>
    rw [List.mem_singleton, ← UInt8.toNat_inj]
    exact eq_comm
  | two hfirst hc hcode =>
    rw [isContinuation_iff] at hc
    exact hlonger (by omega) (by simp; omega)
  | three hfirst hc hd hcode hvalid =>
    rw [isContinuation_iff] at hc hd
    exact hlonger (by omega) (by simp; omega)
  | four hfirst hc hd he hcode hvalid =>
    rw [isContinuation_iff] at hc hd he
    exact hlonger (by omega) (by simp; omega)

/-- A byte below 0x80 is among those of a text when its character is in the text. -/
theorem mem_utf8_iff {b : UInt8} {c : Char} (hb : b.toNat < 0x80) (hc : c.val.toNat = b.toNat)
    (s : String) : b ∈ utf8 s ↔ c ∈ s.toList := by
  rw [utf8, List.mem_flatMap]
  constructor
  · rintro ⟨found, hfound, hmem⟩
    have hcode := ((encoding_encode found).mem_iff hb).mp hmem
    rwa [Char.val_inj.mp (UInt32.toNat_inj.mp (hc.trans hcode.symm))]
  · intro hmem
    exact ⟨c, hmem, ((encoding_encode c).mem_iff hb).mpr hc⟩

/-! ## The character at the front -/

theorem leadingChar?_encode (c : Char) (rest : Bytes) :
    leadingChar? (String.utf8EncodeChar c ++ rest)
      = some (c, (String.utf8EncodeChar c).length) := by
  have hc : Char.ofNat c.val.toNat = c := Char.ofNat_toNat c
  rw [(encoding_encode c).leadingChar?_append, hc]

/-- A character is read only where it was written. -/
theorem eq_encode_append_of_leadingChar? {bytes : Bytes} {c : Char} {width : Nat}
    (h : leadingChar? bytes = some (c, width)) :
    ∃ rest, bytes = String.utf8EncodeChar c ++ rest
      ∧ width = (String.utf8EncodeChar c).length := by
  obtain ⟨code, front, rest, hfront, rfl, rfl, rfl⟩ := exists_encoding h
  rw [hfront.eq_encode]
  exact ⟨rest, rfl, rfl⟩

/-- More bytes do not change the character that others open with. -/
theorem leadingChar?_append {bytes : Bytes} {found : Char × Nat}
    (h : leadingChar? bytes = some found) (more : Bytes) :
    leadingChar? (bytes ++ more) = some found := by
  obtain ⟨c, width⟩ := found
  obtain ⟨rest, rfl, rfl⟩ := eq_encode_append_of_leadingChar? h
  rw [List.append_assoc, leadingChar?_encode]

/-- Bytes that open with no character open with none before the start of another one. -/
theorem leadingChar?_append_eq_none {front rest : Bytes} (hne : front ≠ [])
    (h : leadingChar? front = none) (hrest : ∀ b ∈ rest.head?, isContinuation b = false) :
    leadingChar? (front ++ rest) = none := by
  by_contra hsome
  obtain ⟨⟨c, width⟩, hread⟩ := Option.ne_none_iff_exists'.mp hsome
  obtain ⟨after, heq, -⟩ := eq_encode_append_of_leadingChar? hread
  rcases List.append_eq_append_iff.mp heq with ⟨more, hencode, hmore⟩ | ⟨more, rfl, -⟩
  · cases more with
    | nil =>
      have hfront := leadingChar?_encode c []
      rw [List.append_nil, hencode, List.append_nil, h] at hfront
      cases hfront
    | cons b more =>
      -- the encoding would go on with the first byte of the rest
      obtain ⟨first, tail, htail, -, hcontinued⟩ := (encoding_encode c).exists_cons
      obtain ⟨first', front, rfl⟩ := List.exists_cons_of_ne_nil hne
      rw [htail] at hencode
      have hb : isContinuation b = true := by
        apply hcontinued
        rw [(List.cons.inj hencode).2]
        exact List.mem_append_right _ List.mem_cons_self
      rw [hrest b (by rw [hmore]; rfl)] at hb
      cases hb
  · rw [leadingChar?_encode] at h
    cases h

/-! ## Reading and writing symbols -/

theorem symbolsFrom_append (front rest : Bytes) :
    symbolsFrom front.length (front ++ rest) = symbols rest := by
  induction front with
  | nil => rfl
  | cons b front ih => exact ih

theorem symbols_encode_append (c : Char) (rest : Bytes) :
    symbols (String.utf8EncodeChar c ++ rest) = .char c :: symbols rest := by
  obtain ⟨b, tail, htail, -, -⟩ := (encoding_encode c).exists_cons
  have hread := leadingChar?_encode c rest
  rw [htail, List.cons_append] at hread ⊢
  rw [symbols, symbolsFrom, hread]
  exact congrArg _ (symbolsFrom_append tail rest)

theorem symbols_cons_of_none {b : UInt8} {rest : Bytes} (h : leadingChar? (b :: rest) = none) :
    symbols (b :: rest) = .stray b :: symbols rest := by
  rw [symbols, symbolsFrom, h]
  rfl

/-- Bytes are a character and more bytes, or a stray byte and more bytes, or none. -/
@[elab_as_elim]
theorem bytes_induction {motive : Bytes → Prop} (nil : motive [])
    (char : ∀ c rest, motive rest → motive (String.utf8EncodeChar c ++ rest))
    (stray : ∀ b rest, leadingChar? (b :: rest) = none → motive rest → motive (b :: rest))
    (bytes : Bytes) : motive bytes := by
  induction hlength : bytes.length using Nat.strongRecOn generalizing bytes with
  | _ length ih =>
    cases bytes with
    | nil => exact nil
    | cons b rest =>
      cases hread : leadingChar? (b :: rest) with
      | none => exact stray b rest hread (ih rest.length (by simp [← hlength]) rest rfl)
      | some found =>
        obtain ⟨after, heq, -⟩ := eq_encode_append_of_leadingChar? hread
        obtain ⟨first, tail, htail, -, -⟩ := (encoding_encode found.1).exists_cons
        rw [heq] at hlength ⊢
        refine char found.1 after (ih after.length ?_ after rfl)
        rw [← hlength, htail]
        simp only [List.length_append, List.length_cons]
        omega

/-- **Reading bytes and writing them back changes nothing**, whatever the bytes are. -/
theorem bytesOf_symbols (bytes : Bytes) : bytesOf (symbols bytes) = bytes := by
  induction bytes using bytes_induction with
  | nil => rfl
  | char c rest ih =>
    rw [symbols_encode_append]
    exact congrArg _ ih
  | stray b rest h ih =>
    rw [symbols_cons_of_none h]
    exact congrArg _ ih

/-! ## Symbols that are read back -/

/-- The stray bytes that a list of symbols opens with. -/
def strayRun : List Symbol → Bytes
  | .stray b :: l => b :: strayRun l
  | _ => []

/-- Symbols that are read back from their bytes: no stray bytes in a row make a character. -/
inductive IsRead : List Symbol → Prop
  | nil : IsRead []
  | char (c : Char) {l : List Symbol} (h : IsRead l) : IsRead (.char c :: l)
  | stray {b : UInt8} {l : List Symbol} (hb : leadingChar? (b :: strayRun l) = none)
      (h : IsRead l) : IsRead (.stray b :: l)

/-- After the stray bytes comes the start of a character, or nothing. -/
theorem exists_bytesOf_eq_strayRun_append (l : List Symbol) :
    ∃ rest, bytesOf l = strayRun l ++ rest ∧ ∀ b ∈ rest.head?, isContinuation b = false := by
  induction l with
  | nil => exact ⟨[], rfl, by simp⟩
  | cons s l ih =>
    cases s with
    | char c =>
      obtain ⟨b, tail, htail, hb, -⟩ := (encoding_encode c).exists_cons
      refine ⟨bytesOf (.char c :: l), rfl, ?_⟩
      intro first hfirst
      have hbytes : bytesOf (.char c :: l) = b :: (tail ++ bytesOf l) := by
        rw [← List.cons_append, ← htail]
        rfl
      rw [hbytes] at hfirst
      cases hfirst
      exact hb
    | stray b =>
      obtain ⟨rest, hl, hrest⟩ := ih
      exact ⟨rest, congrArg (b :: ·) hl, hrest⟩

/-- **Writing symbols and reading them gives them back.** -/
theorem symbols_bytesOf {l : List Symbol} (h : IsRead l) : symbols (bytesOf l) = l := by
  induction h with
  | nil => rfl
  | @char c l h ih =>
    have hsymbols := symbols_encode_append c (bytesOf l)
    rwa [ih] at hsymbols
  | @stray b l hb h ih =>
    obtain ⟨rest, hl, hrest⟩ := exists_bytesOf_eq_strayRun_append l
    have hread : leadingChar? (b :: bytesOf l) = none := by
      rw [hl]
      exact leadingChar?_append_eq_none (List.cons_ne_nil b (strayRun l)) hb hrest
    have hsymbols := symbols_cons_of_none hread
    rwa [ih] at hsymbols

/-- Not every list of symbols is read back: two stray bytes can make a character. -/
example : symbols (bytesOf [.stray 0xC3, .stray 0xA9]) = [.char 'é'] := by decide

/-- What was read from bytes is read back. -/
theorem isRead_symbols (bytes : Bytes) : IsRead (symbols bytes) := by
  induction bytes using bytes_induction with
  | nil => exact .nil
  | char c rest ih =>
    rw [symbols_encode_append]
    exact .char c ih
  | stray b rest h ih =>
    rw [symbols_cons_of_none h]
    refine .stray ?_ ih
    -- a character in the stray bytes would also be one in all the bytes
    obtain ⟨after, hrest, -⟩ := exists_bytesOf_eq_strayRun_append (symbols rest)
    rw [bytesOf_symbols] at hrest
    by_contra hsome
    obtain ⟨found, hread⟩ := Option.ne_none_iff_exists'.mp hsome
    have hmore := leadingChar?_append hread after
    rw [List.cons_append, ← hrest, h] at hmore
    cases hmore

theorem strayRun_append_char (l : List Symbol) (c : Char) (m : List Symbol) :
    strayRun (l ++ .char c :: m) = strayRun l := by
  induction l with
  | nil => rfl
  | cons s l ih =>
    cases s with
    | char d => rfl
    | stray b => exact congrArg (b :: ·) ih

/-- A character keeps the stray bytes on its two sides apart. -/
theorem IsRead.append_char {l m : List Symbol} (hl : IsRead l) (c : Char) (hm : IsRead m) :
    IsRead (l ++ .char c :: m) := by
  induction hl with
  | nil => exact .char c hm
  | char d h ih => exact .char d ih
  | stray hb h ih =>
    rw [List.cons_append]
    refine .stray ?_ ih
    rwa [strayRun_append_char]

end DatabaseDump.Text
