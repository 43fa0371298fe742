import DatabaseDump.Proofs.ValidOptions

/-!
# Names in one text or in a list

Names are given as one text with commas between them, or one by one in a list. Both say the same
as long as no name has a comma of its own: the commas of the text are then those between names,
and cutting there gives the list back. No name at all joins to the empty text, which is cut into
one blank piece, and blank pieces are dropped.

Names that were read have nothing left to trim and none of them is blank, so that reading them
again changes nothing.
-/

namespace DatabaseDump

namespace Text

theorem trimLeft_eq_self {s : List Char} (h : ∀ c ∈ s.head?, isBlank c = false) :
    trimLeft s = s := by
  cases s with
  | nil => rfl
  | cons c rest => exact List.dropWhile_cons_of_neg (by simp [h c rfl])

theorem trimRight_eq_self {s : List Char} (h : ∀ c ∈ s.getLast?, isBlank c = false) :
    trimRight s = s := by
  have hfront : trimLeft s.reverse = s.reverse :=
    trimLeft_eq_self (by rwa [List.head?_reverse])
  rw [trimRight, ← trimLeft, hfront, List.reverse_reverse]

/-- There is nothing to trim where no blank stands at either end. -/
theorem trim_eq_self {s : String} (h : IsTrimmed s.toList) : trim s = s := by
  rw [trim, trimChars, trimLeft_eq_self h.front, trimRight_eq_self h.back, String.ofList_toList]

end Text

namespace Options

/-- The items of a list of texts are these texts. -/
theorem listed_texts (strings : List String) :
    listed (.list (strings.map .text)) = .ok strings := by
  have htexts : (strings.map Value.text).map Value.toText = strings := by
    rw [List.map_map]
    exact List.map_id' strings
  exact congrArg Except.ok htexts

/-- Texts without commas that are joined by commas can be told apart. -/
theorem listed_joined {strings : List String} (h : ∀ s ∈ strings, ',' ∉ s.toList)
    (hne : strings ≠ []) : listed (.text (",".intercalate strings)) = .ok strings := by
  have hcommas : ∀ piece ∈ strings.map String.toList, ',' ∉ piece :=
    List.forall_mem_map.mpr h
  have hpieces : Text.splitOnChar ',' (",".intercalate strings).toList
      = strings.map String.toList := by
    rw [Text.splitOnChar_eq_splitOn, String.toList_intercalate]
    exact List.splitOn_intercalate ',' hcommas (List.map_eq_nil_iff.not.mpr hne)
  rw [listed, hpieces, List.map_map]
  refine congrArg Except.ok ?_
  calc strings.map (String.ofList ∘ String.toList)
      = strings.map id := List.map_congr_left fun s _ => String.ofList_toList
    _ = strings := List.map_id strings

/-- Texts that are joined by commas list the same names as the texts themselves. -/
theorem names_joined {strings : List String} (h : ∀ s ∈ strings, ',' ∉ s.toList) :
    names (.text (",".intercalate strings)) = names (.list (strings.map .text)) := by
  by_cases hne : strings = []
  · -- the empty text has one piece, which is blank
    subst hne
    decide +kernel
  · rw [names, names, listed_joined h hne, listed_texts]

/-- Names that were read stay what they are when they are read again. -/
theorem names_of_names {setting : Value} {found : List String} (h : names setting = .ok found) :
    names (.list (found.map .text)) = .ok found := by
  have htrim : found.map Text.trim = found := by
    calc found.map Text.trim
        = found.map id := List.map_congr_left fun name hname =>
          Text.trim_eq_self (isNameOf_of_mem_names h hname).trimmed
      _ = found := List.map_id found
  have hkept : found.filter (fun name => !name.isEmpty) = found := by
    refine List.filter_eq_self.mpr fun name hname => ?_
    simpa using (isNameOf_of_mem_names h hname).nonempty
  rw [names, listed_texts]
  refine congrArg Except.ok ?_
  calc (found.map Text.trim).filter (fun name => !name.isEmpty)
      = found.filter (fun name => !name.isEmpty) := by rw [htrim]
    _ = found := hkept

/--
**Names read alike in one text and in a list, and once they are read they stay.**

The texts have no comma of their own. Apart from that they may be blank, stand between blanks, be
the same or be none at all. The setting whose names are read again is of any shape.
-/
theorem joined_names_read_as_listed :
    (∀ strings : List String, (∀ s ∈ strings, ',' ∉ s.toList) →
      ∃ found, names (.text (",".intercalate strings)) = .ok found
        ∧ names (.list (strings.map .text)) = .ok found)
    ∧ ∀ setting found, names setting = .ok found →
      names (.list (found.map .text)) = .ok found := by
  refine ⟨fun strings h => ?_, fun setting found => names_of_names⟩
  have hlisted : ∃ found, names (.list (strings.map .text)) = .ok found := by
    rw [names, listed_texts]
    exact ⟨_, rfl⟩
  obtain ⟨found, hfound⟩ := hlisted
  exact ⟨found, (names_joined h).trans hfound, hfound⟩

/-- A name twice, one between wide blanks and separators, and a blank one. -/
theorem joined_names_read_as_listed_padded :
    let strings := [" shop", "\u3000yard\u001f", "\t\u00a0", "", "shop"]
    (∀ s ∈ strings, ',' ∉ s.toList)
    ∧ (∃ found, names (.text (",".intercalate strings)) = .ok found
        ∧ names (.list (strings.map .text)) = .ok found)
    ∧ names (.list (strings.map .text)) = .ok ["shop", "yard", "shop"]
    ∧ names (.list [.text "shop", .text "yard", .text "shop"]) = .ok ["shop", "yard", "shop"] := by
  intro strings
  have hcommas : ∀ s ∈ strings, ',' ∉ s.toList := by decide +kernel
  have hfound : names (.list (strings.map .text)) = .ok ["shop", "yard", "shop"] := by
    decide +kernel
  exact ⟨hcommas, joined_names_read_as_listed.1 strings hcommas, hfound,
    joined_names_read_as_listed.2 _ _ hfound⟩

end Options

end DatabaseDump
