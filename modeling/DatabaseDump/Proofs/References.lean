import DatabaseDump.Config
import Mathlib.Data.List.Infix
import Mathlib.Data.List.TakeWhile

/-!
# References in one pass

One pass over a text cuts it from left to right into references and the characters between
them, puts the value of each reference in its place and keeps the characters. `IsCut` is the
cut, and `IsOnePass` is what the pass makes of a text. Every text can be cut in one way, and
the names in the cut are those that are looked up.
-/

namespace DatabaseDump.Config

/-! ## The cut of a text -/

/-- Whether a reference can be made of a name: it ends at the first closing brace. -/
structure IsName (name : List Char) : Prop where
  nonempty : name ≠ []
  unclosed : '\x7d' ∉ name

/-- A part of a text: a character that is kept, or a reference. -/
inductive Piece where
  | kept (c : Char)
  | reference (name : List Char)

namespace Piece

/-- The name in a reference. -/
def name? : Piece → Option (List Char)
  | .kept _ => none
  | .reference name => some name

/-- What a part becomes in an environment. -/
def value (environment : Environment) : Piece → List Char
  | .kept c => [c]
  | .reference name => valueOf environment name

end Piece

/--
The parts of a text from left to right. A character is kept where no reference begins, and
the search goes on behind each reference that was found.
-/
inductive IsCut : List Char → List Piece → Prop
  | nil : IsCut [] []
  | kept {c : Char} {rest : List Char} {pieces : List Piece}
      (hnone : ∀ name, IsName name → ¬referenceTo name <+: c :: rest)
      (hrest : IsCut rest pieces) : IsCut (c :: rest) (.kept c :: pieces)
  | reference {name rest : List Char} {pieces : List Piece} (hname : IsName name)
      (hrest : IsCut rest pieces) :
      IsCut (referenceTo name ++ rest) (.reference name :: pieces)

/-- One text is what one pass over another one makes of it. -/
def IsOnePass (environment : Environment) (s result : String) : Prop :=
  ∃ pieces, IsCut s.toList pieces ∧ result.toList = pieces.flatMap (Piece.value environment)

theorem referenceTo_eq (name : List Char) :
    referenceTo name = '$' :: '\x7b' :: (name ++ ['\x7d']) := rfl

theorem referenceTo_append (name rest : List Char) :
    referenceTo name ++ rest = '$' :: '\x7b' :: (name ++ '\x7d' :: rest) := by
  simp [referenceTo]

/-- A name without a closing brace is what stands before the first one. -/
theorem takeWhile_append_brace {name : List Char} (h : '\x7d' ∉ name) (rest : List Char) :
    (name ++ '\x7d' :: rest).takeWhile (· != '\x7d') = name := by
  have hall : ∀ c ∈ name, (c != '\x7d') = true := by
    intro c hc
    simpa using ne_of_mem_of_not_mem hc h
  rw [List.takeWhile_append_of_pos hall]
  simp

/-- A text with a closing brace is a name, the brace and the rest. -/
theorem exists_eq_append_brace {rest : List Char} (h : '\x7d' ∈ rest) :
    ∃ behind, rest = rest.takeWhile (· != '\x7d') ++ '\x7d' :: behind := by
  have hsplit := List.takeWhile_append_dropWhile (p := (· != '\x7d')) (l := rest)
  cases hdrop : rest.dropWhile (· != '\x7d') with
  | nil =>
    rw [hdrop, List.append_nil] at hsplit
    rw [← hsplit] at h
    simpa using List.mem_takeWhile_imp h
  | cons c behind =>
    have hnonempty : rest.dropWhile (· != '\x7d') ≠ [] := by simp [hdrop]
    have hc := List.head_dropWhile_not (· != '\x7d') hnonempty
    simp only [hdrop, List.head_cons, bne_eq_false_iff_eq] at hc
    subst hc
    rw [hdrop] at hsplit
    exact ⟨behind, hsplit.symm⟩

theorem reference?_referenceTo {name : List Char} (h : IsName name) (rest : List Char) :
    reference? (referenceTo name ++ rest) = some name := by
  rw [referenceTo_append, reference?, takeWhile_append_brace h.unclosed, if_neg]
  simp only [List.length_append, List.length_cons, Bool.or_eq_true, List.isEmpty_iff, beq_iff_eq,
    not_or]
  exact ⟨h.nonempty, by omega⟩

/-- Where references begin. -/
theorem reference?_eq_some_iff {s name : List Char} :
    reference? s = some name ↔ IsName name ∧ referenceTo name <+: s := by
  constructor
  · intro h
    unfold reference? at h
    split at h
    · rename_i rest
      dsimp only at h
      split at h
      · cases h
      · rename_i hname
        cases h
        simp only [Bool.or_eq_true, List.isEmpty_iff, beq_iff_eq, not_or] at hname
        obtain ⟨hne, hlength⟩ := hname
        have hbrace : '\x7d' ∈ rest := by
          by_contra hnone
          have hall : ∀ c ∈ rest, (c != '\x7d') = true := by
            intro c hc
            simpa using ne_of_mem_of_not_mem hc hnone
          rw [List.takeWhile_eq_self_iff.mpr hall] at hlength
          exact hlength rfl
        obtain ⟨behind, hbehind⟩ := exists_eq_append_brace hbrace
        refine ⟨⟨hne, fun hmem => by simpa using List.mem_takeWhile_imp hmem⟩, behind, ?_⟩
        rw [referenceTo_append, ← hbehind]
    · cases h
  · intro h
    obtain ⟨hname, rest, rfl⟩ := h
    exact reference?_referenceTo hname rest

namespace IsCut

variable {s : List Char} {pieces : List Piece}

theorem cons_cases {c : Char} {rest : List Char} (h : IsCut (c :: rest) pieces) :
    (∃ more, pieces = .kept c :: more ∧ IsCut rest more
      ∧ ∀ name, IsName name → ¬referenceTo name <+: c :: rest)
    ∨ ∃ name behind more, pieces = .reference name :: more ∧ IsCut behind more ∧ IsName name
      ∧ c :: rest = referenceTo name ++ behind := by
  generalize hs : c :: rest = s at h
  cases h with
  | nil => cases hs
  | kept hnone hrest =>
    obtain ⟨rfl, rfl⟩ := List.cons.inj hs
    exact .inl ⟨_, rfl, hrest, hs ▸ hnone⟩
  | reference hname hrest => exact .inr ⟨_, _, _, rfl, hrest, hname, rfl⟩

theorem eq_nil (h : IsCut [] pieces) : pieces = [] := by
  generalize hs : ([] : List Char) = s at h
  cases h with
  | nil => rfl
  | kept => cases hs
  | reference => cases hs

/-- Every text can be cut. -/
theorem exists_of_text (s : List Char) : ∃ pieces, IsCut s pieces := by
  induction hlength : s.length using Nat.strongRecOn generalizing s with
  | _ length ih =>
    cases s with
    | nil => exact ⟨[], .nil⟩
    | cons c rest =>
      subst hlength
      by_cases hfound : ∃ name, IsName name ∧ referenceTo name <+: c :: rest
      · obtain ⟨name, hname, behind, hbehind⟩ := hfound
        rw [← hbehind]
        have hshorter : behind.length < (c :: rest).length := by
          rw [← hbehind, referenceTo_append]
          simp only [List.length_append, List.length_cons]
          omega
        obtain ⟨pieces, hpieces⟩ := ih _ hshorter behind rfl
        exact ⟨_, .reference hname hpieces⟩
      · obtain ⟨pieces, hpieces⟩ := ih rest.length (Nat.lt_succ_self _) rest rfl
        exact ⟨_, .kept (fun name hname hstarts => hfound ⟨name, hname, hstarts⟩) hpieces⟩

/-- Two references at the same place are the same. -/
theorem eq_of_referenceTo_append {name other rest behind : List Char} (h : IsName name)
    (h' : IsName other) (heq : referenceTo name ++ rest = referenceTo other ++ behind) :
    name = other ∧ rest = behind := by
  have hname := reference?_referenceTo h rest
  rw [heq, reference?_referenceTo h'] at hname
  obtain rfl : other = name := Option.some.inj hname
  exact ⟨rfl, List.append_cancel_left heq⟩

/-- There is only one way to cut a text. -/
theorem unique (h : IsCut s pieces) {others : List Piece} (h' : IsCut s others) :
    pieces = others := by
  induction h generalizing others with
  | nil => exact h'.eq_nil.symm
  | @kept c rest pieces hnone hrest ih =>
    rcases h'.cons_cases with ⟨more, rfl, hmore, -⟩ | ⟨name, behind, more, -, -, hname, heq⟩
    · rw [ih hmore]
    · exact absurd ⟨behind, heq.symm⟩ (hnone name hname)
  | @reference name rest pieces hname hrest ih =>
    rw [referenceTo_append] at h'
    rcases h'.cons_cases with ⟨more, -, -, hnone⟩ | ⟨other, behind, more, rfl, hmore, hother, heq⟩
    · refine absurd ⟨rest, ?_⟩ (hnone name hname)
      exact referenceTo_append name rest
    · rw [← referenceTo_append] at heq
      obtain ⟨rfl, rfl⟩ := eq_of_referenceTo_append hname hother heq
      rw [ih hmore]

/-- The names in the cut are those that are looked up. -/
theorem referencesFrom_eq (h : IsCut s pieces) :
    referencesFrom 0 s = pieces.filterMap Piece.name? := by
  induction h with
  | nil => rfl
  | @kept c rest pieces hnone hrest ih =>
    have hread : reference? (c :: rest) = none := by
      rw [Option.eq_none_iff_forall_ne_some]
      intro name hname
      rw [reference?_eq_some_iff] at hname
      exact hnone name hname.1 hname.2
    rw [referencesFrom, hread]
    exact ih
  | @reference name rest pieces hname hrest ih =>
    -- what is left of a reference behind its first character is skipped
    have hskip (front : List Char) :
        referencesFrom front.length (front ++ rest) = referencesFrom 0 rest := by
      induction front with
      | nil => rfl
      | cons c front ih => exact ih
    have hread := reference?_referenceTo hname rest
    have hbehind := hskip ('\x7b' :: (name ++ ['\x7d']))
    have heq : referenceTo name ++ rest = '$' :: ('\x7b' :: (name ++ ['\x7d']) ++ rest) := rfl
    have hlength : ('\x7b' :: (name ++ ['\x7d'])).length = name.length + 2 := by simp
    rw [heq] at hread ⊢
    rw [referencesFrom, hread]
    dsimp only
    rw [← hlength, hbehind, ih]
    rfl

/-- What is referred to in a text are names. -/
theorem isName_of_mem (h : IsCut s pieces) {name : List Char}
    (hmem : name ∈ pieces.filterMap Piece.name?) : IsName name := by
  induction h with
  | nil => cases hmem
  | kept hnone hrest ih => exact ih hmem
  | reference hname hrest ih =>
    rcases List.mem_cons.mp hmem with heq | hlater
    · rw [heq]
      exact hname
    · exact ih hlater

end IsCut

/-- There is always one text that one pass makes of another one. -/
theorem existsUnique_isOnePass (environment : Environment) (s : String) :
    ∃! result, IsOnePass environment s result := by
  obtain ⟨pieces, hcut⟩ := IsCut.exists_of_text s.toList
  refine ⟨String.ofList (pieces.flatMap (Piece.value environment)), ⟨pieces, hcut, ?_⟩, ?_⟩
  · exact String.toList_ofList
  · intro other hother
    obtain ⟨others, hothers, hresult⟩ := hother
    rw [← String.ofList_toList (s := other), hresult, hcut.unique hothers]

end DatabaseDump.Config
