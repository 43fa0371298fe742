import DatabaseDump.Proofs.References
import Mathlib.Data.List.Forall2

/-!
# Values put in one after the other

The references of a text are looked up once, but the value of each name is put in wherever
its reference stands by then: also in a value that was put in before, in the name of another
reference, or where a value has just brought its parts together.

With one reference that is one pass. With plain texts and values it is one pass as well, since
no reference can come about on the way (`foldl_substitute_partly`). Otherwise a value can hold
the reference to a name that comes later, which is then replaced as well
(`not_isOnePass_crossed`), or its own reference, which is replaced once more if the text refers
to it twice (`not_isOnePass_nested`).
-/

namespace DatabaseDump

namespace Text

variable {needle replacement : List Char}

/-- An occurrence at the front is replaced, and the search goes on behind it. -/
theorem replaceAll_append_self (hne : needle ≠ []) (replacement rest : List Char) :
    replaceAll needle replacement (needle ++ rest)
      = replacement ++ replaceAll needle replacement rest := by
  have hskip (front : List Char) : replaceFrom needle replacement front.length (front ++ rest)
      = replaceFrom needle replacement 0 rest := by
    induction front with
    | nil => rfl
    | cons c front ih => exact ih
  obtain ⟨c, front, rfl⟩ := List.exists_cons_of_ne_nil hne
  have hfound : (c :: front).isPrefixOf (c :: (front ++ rest)) = true := by
    exact List.isPrefixOf_iff_prefix.mpr (List.prefix_append (c :: front) rest)
  rw [replaceAll, List.cons_append, replaceFrom, if_pos hfound]
  exact congrArg (replacement ++ ·) (hskip front)

/-- A character is kept if no occurrence begins with it. -/
theorem replaceAll_cons_of_passed {c : Char} {rest : List Char} (h : ¬needle <+: c :: rest) :
    replaceAll needle replacement (c :: rest) = c :: replaceAll needle replacement rest := by
  rw [← List.isPrefixOf_iff_prefix] at h
  rw [replaceAll, replaceFrom, if_neg h]
  rfl

/-- Induction along the search for a needle. -/
theorem search_induction (hne : needle ≠ []) {motive : List Char → Prop} (nil : motive [])
    (found : ∀ rest, motive rest → motive (needle ++ rest))
    (passed : ∀ c rest, ¬needle <+: c :: rest → motive rest → motive (c :: rest))
    (s : List Char) : motive s := by
  induction hlength : s.length using Nat.strongRecOn generalizing s with
  | _ length ih =>
    cases s with
    | nil => exact nil
    | cons c rest =>
      subst hlength
      by_cases hstarts : needle <+: c :: rest
      · obtain ⟨behind, hbehind⟩ := hstarts
        have hpos : 0 < needle.length := List.length_pos_iff.mpr hne
        have hshorter : behind.length < (c :: rest).length := by
          rw [← hbehind, List.length_append]
          omega
        rw [← hbehind]
        exact found behind (ih _ hshorter behind rfl)
      · exact passed c rest hstarts (ih _ (Nat.lt_succ_self _) rest rfl)

/-- A text does not get shorter if the replacement is not shorter than the needle. -/
theorem length_le_length_replaceAll (hne : needle ≠ [])
    (hlength : needle.length ≤ replacement.length) (s : List Char) :
    s.length ≤ (replaceAll needle replacement s).length := by
  induction s using search_induction hne with
  | nil => exact Nat.zero_le _
  | found rest ih =>
    rw [replaceAll_append_self hne, List.length_append, List.length_append]
    omega
  | passed c rest hnone ih =>
    rw [replaceAll_cons_of_passed hnone, List.length_cons, List.length_cons]
    omega

/-- A text with an occurrence gets longer if the replacement is longer than the needle. -/
theorem length_lt_length_replaceAll (hne : needle ≠ [])
    (hlength : needle.length < replacement.length) {s : List Char} (h : needle <:+: s) :
    s.length < (replaceAll needle replacement s).length := by
  induction s using search_induction hne with
  | nil => exact absurd (List.infix_nil.mp h) hne
  | found rest ih =>
    have hrest := length_le_length_replaceAll hne hlength.le rest
    rw [replaceAll_append_self hne, List.length_append, List.length_append]
    omega
  | passed c rest hnone ih =>
    rcases List.infix_cons_iff.mp h with hstarts | hoccurs
    · exact absurd hstarts hnone
    · have hrest := ih hoccurs
      rw [replaceAll_cons_of_passed hnone, List.length_cons, List.length_cons]
      omega

end Text

namespace Config

open Text

variable {environment : Environment} {s name : List Char} {pieces : List Piece}

theorem referenceTo_ne_nil (name : List Char) : referenceTo name ≠ [] := List.cons_ne_nil _ _

/-! ## What is left of a reference -/

section Fill

variable {fill : List Char} (hlength : (referenceTo name).length ≤ fill.length)
  (hclosing : '\x7d' ∉ fill)

include hlength hclosing

/--
A reference that begins in front of a search stood there before: what is put in does not
close it, and is too long to be inside it.
-/
theorem prefix_of_prefix_replaceAll {front : List Char}
    (h : referenceTo name <+: front ++ replaceAll (referenceTo name) fill s) :
    referenceTo name <+: front ++ s := by
  induction s using search_induction (referenceTo_ne_nil name) generalizing front with
  | nil => exact h
  | found rest ih =>
    rw [replaceAll_append_self (referenceTo_ne_nil name)] at h
    by_cases hinside : (referenceTo name).length ≤ front.length
    · have hfront : referenceTo name <+: front :=
        List.prefix_of_prefix_length_le h (List.prefix_append _ _) hinside
      exact hfront.trans (List.prefix_append _ _)
    · -- it would end within what was put in, which has no closing brace
      rw [← List.append_assoc] at h
      have hboth : referenceTo name <+: front ++ fill := by
        refine List.prefix_of_prefix_length_le h (List.prefix_append _ _) ?_
        rw [List.length_append]
        omega
      obtain ⟨tail, htail⟩ : front <+: referenceTo name :=
        List.prefix_of_prefix_length_le (List.prefix_append _ _) hboth (by omega)
      have hfill : tail <+: fill := by
        rw [← htail] at hboth
        exact (List.prefix_append_right_inj front).mp hboth
      have hlast : '\x7d' ∈ tail := by
        have hne : tail ≠ [] := by
          intro hnil
          rw [hnil, List.append_nil] at htail
          rw [htail] at hinside
          exact hinside le_rfl
        have hend := congrArg List.getLast? htail
        rw [List.getLast?_append_of_ne_nil _ hne] at hend
        apply List.mem_of_getLast?
        rw [hend]
        exact List.getLast?_concat
      exact absurd (hfill.subset hlast) hclosing
  | passed c rest hnone ih =>
    rw [replaceAll_cons_of_passed hnone, List.append_cons] at h
    rw [List.append_cons]
    exact ih h

/-- No reference to a name is left if its value cannot be part of one. -/
theorem not_infix_replaceAll (hopening : '$' ∉ fill) (s : List Char) :
    ¬referenceTo name <:+: replaceAll (referenceTo name) fill s := by
  induction s using search_induction (referenceTo_ne_nil name) with
  | nil =>
    intro h
    exact referenceTo_ne_nil name (List.infix_nil.mp h)
  | found rest ih =>
    intro h
    rw [replaceAll_append_self (referenceTo_ne_nil name)] at h
    obtain ⟨front, behind, heq⟩ := h
    rw [List.append_assoc] at heq
    -- it begins in what was put in, which has no dollar sign, or behind it
    rcases List.append_eq_append_iff.mp heq with ⟨more, hfill, hmore⟩ | ⟨more, -, hrest⟩
    · cases more with
      | nil => exact ih ⟨[], behind, hmore⟩
      | cons c more =>
        rw [referenceTo_append, List.cons_append] at hmore
        obtain ⟨rfl, -⟩ := List.cons.inj hmore
        simp [hfill] at hopening
    · exact ih ⟨more, behind, by rw [hrest, List.append_assoc]⟩
  | passed c rest hnone ih =>
    intro h
    rw [replaceAll_cons_of_passed hnone] at h
    rcases List.infix_cons_iff.mp h with hstarts | hoccurs
    · rw [← List.singleton_append] at hstarts
      exact hnone (prefix_of_prefix_replaceAll hlength hclosing hstarts)
    · exact ih hoccurs

end Fill

/-! ## Plain texts and values -/

/-- How every reference begins. -/
def opening : List Char := ['$', '\x7b']

/--
Whether no reference can come about while values are put in: none begins in a name or in a
value, also not with what follows it, and no reference stands directly behind a dollar sign.
-/
structure IsPlain (environment : Environment) (s : List Char) : Prop where
  apart : ¬ '$' :: opening <:+: s
  names : ∀ name ∈ referencesFrom 0 s, ¬opening <:+: name
  values : ∀ name ∈ referencesFrom 0 s, ¬opening <:+: valueOf environment name ++ ['\x7b']

/-- What a part is when the values of some names have been put in. -/
def Piece.partly (environment : Environment) (done : List (List Char)) : Piece → List Char
  | .kept c => [c]
  | .reference name => if name ∈ done then valueOf environment name else referenceTo name

/-- No reference begins in a text that does not open one, whatever follows. -/
theorem replaceAll_append_of_unopened {front : List Char} (h : ¬opening <:+: front ++ ['\x7b'])
    (name replacement rest : List Char) :
    replaceAll (referenceTo name) replacement (front ++ rest)
      = front ++ replaceAll (referenceTo name) replacement rest := by
  induction front with
  | nil => rfl
  | cons c front ih =>
    have hnone : ¬referenceTo name <+: c :: (front ++ rest) := by
      intro hstarts
      rw [referenceTo_eq, List.cons_prefix_cons] at hstarts
      obtain ⟨rfl, hstarts⟩ := hstarts
      apply h
      cases front with
      | nil => exact List.infix_rfl
      | cons d front =>
        rw [List.cons_append, List.cons_prefix_cons] at hstarts
        obtain ⟨rfl, -⟩ := hstarts
        exact (List.prefix_append opening (front ++ ['\x7b'])).isInfix
    have hfront : ¬opening <:+: front ++ ['\x7b'] := fun hoccurs => h (List.infix_cons hoccurs)
    rw [List.cons_append, replaceAll_cons_of_passed hnone, ih hfront]
    rfl

/-- Behind its dollar sign, the reference to a plain name does not open another one. -/
theorem unopened_of_name (h : ¬opening <:+: name) :
    ¬opening <:+: ('\x7b' :: (name ++ ['\x7d'])) ++ ['\x7b'] := by
  intro hoccurs
  rw [List.cons_append, List.infix_cons_iff] at hoccurs
  rcases hoccurs with hstarts | hoccurs
  · simp [opening] at hstarts
  · rcases List.infix_concat_iff.mp hoccurs with hsuffix | hoccurs
    · have hlast : opening <:+ ['\x7d', '\x7b'] := by
        refine List.suffix_of_suffix_length_le hsuffix ?_ le_rfl
        rw [List.append_assoc]
        exact List.suffix_append name _
      revert hlast
      decide
    · rcases List.infix_concat_iff.mp hoccurs with hsuffix | hoccurs
      · have hlast : ['\x7b'] <:+ ['\x7d'] :=
          List.suffix_of_suffix_length_le ((List.suffix_cons '$' _).trans hsuffix)
            (List.suffix_append name _) le_rfl
        revert hlast
        decide
      · exact h hoccurs

namespace IsCut

/-- Without values, the parts are the text itself. -/
theorem flatMap_partly_nil (h : IsCut s pieces) :
    pieces.flatMap (Piece.partly environment []) = s := by
  induction h with
  | nil => rfl
  | kept hnone hrest ih => rw [List.flatMap_cons, ih]; rfl
  | reference hname hrest ih => rw [List.flatMap_cons, ih]; rfl

/-- A text without a closing brace has no references. -/
theorem flatMap_of_unclosed (h : IsCut s pieces) (hclosing : '\x7d' ∉ s)
    (done : List (List Char)) : pieces.flatMap (Piece.partly environment done) = s := by
  induction h with
  | nil => rfl
  | kept hnone hrest ih =>
    rw [List.mem_cons, not_or] at hclosing
    rw [List.flatMap_cons, ih hclosing.2]
    rfl
  | reference hname hrest ih => simp [referenceTo_append] at hclosing

/-- No reference begins at a character that is kept, whatever values were put in behind it. -/
theorem not_prefix_partly {c : Char} {rest : List Char} (hcut : IsCut rest pieces)
    (environment : Environment) (hnone : ∀ name, IsName name → ¬referenceTo name <+: c :: rest)
    (hapart : ¬ '$' :: opening <:+: c :: rest) (done : List (List Char)) (hname : IsName name) :
    ¬referenceTo name <+: c :: pieces.flatMap (Piece.partly environment done) := by
  intro hstarts
  rw [referenceTo_eq, List.cons_prefix_cons] at hstarts
  obtain ⟨rfl, hstarts⟩ := hstarts
  cases hcut with
  | nil => simp at hstarts
  | @reference other behind more hother hrest =>
    exact hapart ⟨[], other ++ ('\x7d' :: behind), by simp [opening, referenceTo]⟩
  | @kept d behind more hnone' hrest =>
    rw [List.flatMap_cons, Piece.partly, List.singleton_append, List.cons_prefix_cons] at hstarts
    obtain ⟨rfl, hstarts⟩ := hstarts
    -- The opening stood in the text. It was no reference, so it is empty or never closed.
    by_cases hclosing : '\x7d' ∈ behind
    · obtain ⟨tail, htail⟩ := exists_eq_append_brace hclosing
      by_cases hempty : behind.takeWhile (· != '\x7d') = []
      · rw [hempty, List.nil_append] at htail
        rw [htail] at hrest
        rcases hrest.cons_cases with ⟨more, rfl, -, -⟩ | ⟨other, _, more, -, -, -, heq⟩
        · obtain ⟨c, inner, rfl⟩ := List.exists_cons_of_ne_nil hname.nonempty
          rw [List.flatMap_cons, Piece.partly, List.cons_append, List.singleton_append,
            List.cons_prefix_cons] at hstarts
          obtain ⟨rfl, -⟩ := hstarts
          exact hname.unclosed List.mem_cons_self
        · rw [referenceTo_append] at heq
          simp at heq
      · have hother : IsName (behind.takeWhile (· != '\x7d')) := by
          refine ⟨hempty, ?_⟩
          intro hmem
          simpa using List.mem_takeWhile_imp hmem
        apply hnone _ hother
        refine ⟨tail, ?_⟩
        rw [referenceTo_append, ← htail]
    · rw [hrest.flatMap_of_unclosed hclosing] at hstarts
      apply hclosing
      exact hstarts.subset (by simp)

/-- Putting in the value of one more name changes its references and nothing else. -/
theorem substitute_partly (hcut : IsCut s pieces) (hplain : IsPlain environment s)
    (hname : IsName name) (done : List (List Char)) :
    substitute environment (pieces.flatMap (Piece.partly environment done)) name
      = pieces.flatMap (Piece.partly environment (name :: done)) := by
  obtain ⟨hapart, hnames, hvalues⟩ := hplain
  rw [hcut.referencesFrom_eq] at hnames hvalues
  unfold substitute
  induction hcut with
  | nil => rfl
  | @kept c rest pieces hnone hrest ih =>
    have hfirst := hrest.not_prefix_partly environment hnone hapart done hname
    have hlater := ih (fun hoccurs => hapart (List.infix_cons hoccurs)) hnames hvalues
    rw [List.flatMap_cons, List.flatMap_cons, Piece.partly, List.singleton_append,
      replaceAll_cons_of_passed hfirst, hlater]
    rfl
  | @reference other rest pieces hother hrest ih =>
    have hapart' : ¬ '$' :: opening <:+: rest := by
      intro hoccurs
      exact hapart (hoccurs.trans (List.suffix_append _ _).isInfix)
    have hlater := ih hapart' (fun n hn => hnames n (List.mem_cons_of_mem _ hn))
      (fun n hn => hvalues n (List.mem_cons_of_mem _ hn))
    rw [List.flatMap_cons, List.flatMap_cons, ← hlater]
    by_cases hdone : other ∈ done
    · -- its value has been put in already, and is not taken for a reference
      have hunopened := hvalues other List.mem_cons_self
      rw [Piece.partly, if_pos hdone, replaceAll_append_of_unopened hunopened, Piece.partly,
        if_pos (List.mem_cons_of_mem _ hdone)]
    · rw [Piece.partly, if_neg hdone, Piece.partly]
      by_cases heq : other = name
      · subst heq
        rw [replaceAll_append_self (referenceTo_ne_nil other), if_pos List.mem_cons_self]
      · have hfirst : ¬referenceTo name
            <+: '$' :: (('\x7b' :: (other ++ ['\x7d']))
              ++ pieces.flatMap (Piece.partly environment done)) := by
          intro hstarts
          obtain ⟨behind, hbehind⟩ := hstarts
          exact heq (eq_of_referenceTo_append hother hname hbehind.symm).1
        have hunopened := unopened_of_name (hnames other List.mem_cons_self)
        have hnot : other ∉ name :: done := by
          rw [List.mem_cons, not_or]
          exact ⟨heq, hdone⟩
        rw [if_neg hnot, referenceTo_eq other, List.cons_append, replaceAll_cons_of_passed hfirst,
          replaceAll_append_of_unopened hunopened]
        rfl

/-- Putting in the values of some names, one after the other, changes their references. -/
theorem foldl_substitute_partly (hcut : IsCut s pieces) (hplain : IsPlain environment s)
    {names : List (List Char)} (hnames : ∀ name ∈ names, IsName name)
    (done : List (List Char)) :
    names.foldl (substitute environment) (pieces.flatMap (Piece.partly environment done))
      = pieces.flatMap (Piece.partly environment (names.reverse ++ done)) := by
  induction names generalizing done with
  | nil => rfl
  | cons name names ih =>
    have hlater := ih (fun n hn => hnames n (List.mem_cons_of_mem _ hn)) (name :: done)
    rw [List.foldl_cons, hcut.substitute_partly hplain (hnames name List.mem_cons_self), hlater,
      List.reverse_cons, List.append_assoc]
    rfl

/-- When the values of all names are in, every part has its value. -/
theorem flatMap_partly_of_all {done : List (List Char)}
    (h : ∀ name ∈ pieces.filterMap Piece.name?, name ∈ done) :
    pieces.flatMap (Piece.partly environment done)
      = pieces.flatMap (Piece.value environment) := by
  refine List.flatMap_congr ?_
  intro piece hpiece
  cases piece with
  | kept c => rfl
  | reference name => exact if_pos (h name (List.mem_filterMap.mpr ⟨_, hpiece, rfl⟩))

/-- If a text refers to one name only, its value is put in in one pass. -/
theorem substitute_eq_flatMap (hcut : IsCut s pieces) (environment : Environment)
    (hone : ∀ other ∈ pieces.filterMap Piece.name?, other = name) (hname : IsName name) :
    substitute environment s name = pieces.flatMap (Piece.value environment) := by
  unfold substitute
  induction hcut with
  | nil => rfl
  | @kept c rest pieces hnone hrest ih =>
    rw [replaceAll_cons_of_passed (hnone name hname), ih hone]
    rfl
  | @reference other rest pieces hother hrest ih =>
    obtain rfl := hone other List.mem_cons_self
    rw [replaceAll_append_self (referenceTo_ne_nil other),
      ih (fun n hn => hone n (List.mem_cons_of_mem _ hn))]
    rfl

end IsCut

/-! ## Texts with one reference and with more -/

theorem toList_resolveText (environment : Environment) (s : String) :
    (resolveText environment s).toList
      = (referencesFrom 0 s.toList).foldl (substitute environment) s.toList := by
  rw [resolveText, String.toList_ofList]

/-- A plain text is resolved in one pass. -/
theorem isOnePass_of_isPlain {s : String} (h : IsPlain environment s.toList) :
    IsOnePass environment s (resolveText environment s) := by
  obtain ⟨pieces, hcut⟩ := IsCut.exists_of_text s.toList
  refine ⟨pieces, hcut, ?_⟩
  have hfold := hcut.foldl_substitute_partly h (fun name => hcut.isName_of_mem) []
  rw [hcut.flatMap_partly_nil] at hfold
  rw [toList_resolveText, hcut.referencesFrom_eq, hfold, IsCut.flatMap_partly_of_all]
  intro name hmem
  simpa using hmem

/-- A text with at most one reference is resolved in one pass. -/
theorem isOnePass_of_length_le_one {s : String} (h : (referencesFrom 0 s.toList).length ≤ 1)
    (environment : Environment) : IsOnePass environment s (resolveText environment s) := by
  obtain ⟨pieces, hcut⟩ := IsCut.exists_of_text s.toList
  refine ⟨pieces, hcut, ?_⟩
  rw [toList_resolveText]
  have hnames := hcut.referencesFrom_eq
  match hfound : referencesFrom 0 s.toList with
  | [] =>
    rw [hfound] at hnames
    have hall : pieces.flatMap (Piece.partly environment [])
        = pieces.flatMap (Piece.value environment) :=
      IsCut.flatMap_partly_of_all (by simp [← hnames])
    rw [← hall, hcut.flatMap_partly_nil]
    rfl
  | [name] =>
    rw [hfound] at hnames
    have hname : IsName name := hcut.isName_of_mem (hnames ▸ List.mem_singleton_self name)
    have hone : ∀ other ∈ pieces.filterMap Piece.name?, other = name := by
      intro other hother
      rw [← hnames] at hother
      exact List.mem_singleton.mp hother
    exact hcut.substitute_eq_flatMap environment hone hname
  | _ :: _ :: _ => simp [hfound] at h

/-- What can be the name of a variable. -/
structure IsVariable (name : List Char) : Prop where
  nonempty : name ≠ []
  noEquals : '=' ∉ name
  noNul : '\x00' ∉ name

/-- What can be the environment of a program. -/
structure IsPossible (environment : Environment) : Prop where
  names : ∀ entry ∈ environment, IsVariable entry.1.toList
  values : ∀ entry ∈ environment, '\x00' ∉ entry.2.toList
  unique : (environment.map Prod.fst).Nodup

theorem valueOf_cons_self (name value : List Char) (environment : Environment) :
    valueOf ((String.ofList name, String.ofList value) :: environment) name = value := by
  simp [valueOf]

theorem valueOf_cons_of_ne {other : List Char} (h : name ≠ other) (value : String)
    (environment : Environment) :
    valueOf ((String.ofList other, value) :: environment) name = valueOf environment name := by
  have hne : (String.ofList name == String.ofList other) = false := by
    simpa using fun heq => h (String.ofList_injective heq)
  rw [valueOf, List.lookup_cons, hne]
  rfl

/-- The value of what is referred to occurs in what one pass makes of a text. -/
theorem infix_of_isOnePass {s result : String} (h : IsOnePass environment s result)
    (hmem : name ∈ referencesFrom 0 s.toList) : valueOf environment name <:+: result.toList := by
  obtain ⟨pieces, hcut, hresult⟩ := h
  rw [hcut.referencesFrom_eq, List.mem_filterMap] at hmem
  obtain ⟨piece, hpiece, hname⟩ := hmem
  obtain ⟨front, behind, rfl⟩ := List.append_of_mem hpiece
  cases piece with
  | kept c => cases hname
  | reference other =>
    obtain rfl : other = name := Option.some.inj hname
    refine ⟨front.flatMap (Piece.value environment), behind.flatMap (Piece.value environment), ?_⟩
    rw [hresult, List.flatMap_append, List.flatMap_cons, ← List.append_assoc]
    rfl

/-- Values that are not shorter than the references do not make a text shorter. -/
theorem length_le_length_foldl {names : List (List Char)}
    (h : ∀ name ∈ names, (referenceTo name).length ≤ (valueOf environment name).length)
    (s : List Char) : s.length ≤ (names.foldl (substitute environment) s).length := by
  induction names generalizing s with
  | nil => exact le_rfl
  | cons name names ih =>
    have hfirst : s.length ≤ (substitute environment s name).length :=
      length_le_length_replaceAll (referenceTo_ne_nil name) (h name List.mem_cons_self) s
    exact hfirst.trans (ih (fun n hn => h n (List.mem_cons_of_mem _ hn)) _)

/-- An environment in which the value of a name holds the reference to the name itself. -/
def nested (name : List Char) : Environment :=
  [(String.ofList name, String.ofList ('x' :: referenceTo name))]

theorem valueOf_nested (name : List Char) :
    valueOf (nested name) name = 'x' :: referenceTo name :=
  valueOf_cons_self name _ []

theorem isPossible_nested (h : IsVariable name) : IsPossible (nested name) where
  names := by simpa [nested] using h
  values := by simpa [nested, referenceTo] using h.noNul
  unique := by simp [nested]

/-- A value that holds its own reference is expanded if there are two references to it. -/
theorem not_isOnePass_nested {s : String} {more : Nat}
    (h : referencesFrom 0 s.toList = List.replicate (more + 2) name) :
    ¬IsOnePass (nested name) s (resolveText (nested name) s) := by
  intro hpass
  have hmem : name ∈ referencesFrom 0 s.toList := by simp [h]
  have hoccurs := infix_of_isOnePass hpass hmem
  obtain ⟨pieces, hcut, hresult⟩ := hpass
  have hread := hcut.referencesFrom_eq
  have hone : ∀ other ∈ pieces.filterMap Piece.name?, other = name := by
    intro other hother
    rw [← hread, h] at hother
    exact List.eq_of_mem_replicate hother
  -- The first replacement does it in one pass, the second one puts the value into the value.
  have hfirst := hcut.substitute_eq_flatMap (nested name) hone
    (hcut.isName_of_mem (hread ▸ hmem))
  rw [← hresult] at hfirst
  have hsecond : (resolveText (nested name) s).toList.length
      < (substitute (nested name) (resolveText (nested name) s).toList name).length := by
    refine length_lt_length_replaceAll (referenceTo_ne_nil name) ?_ ?_
    · rw [valueOf_nested]
      exact Nat.lt_succ_self _
    · rw [valueOf_nested] at hoccurs
      exact (List.suffix_cons 'x' _).isInfix.trans hoccurs
  have hlonger : ∀ other ∈ List.replicate more name,
      (referenceTo other).length ≤ (valueOf (nested name) other).length := by
    intro other hother
    rw [List.eq_of_mem_replicate hother, valueOf_nested]
    exact Nat.le_succ _
  have hothers := length_le_length_foldl hlonger
    (substitute (nested name) (resolveText (nested name) s).toList name)
  have hall := congrArg List.length (toList_resolveText (nested name) s)
  rw [h, List.replicate_succ, List.replicate_succ, List.foldl_cons, List.foldl_cons,
    hfirst] at hall
  omega

/-- A text that is as long as the reference to a name and has no part of it. -/
def fill (name : List Char) : List Char := List.replicate (referenceTo name).length 'x'

theorem length_fill (name : List Char) : (fill name).length = (referenceTo name).length :=
  List.length_replicate

theorem not_mem_fill {c : Char} (h : c ≠ 'x') (name : List Char) : c ∉ fill name := by
  intro hmem
  exact h (List.eq_of_mem_replicate hmem)

/-- An environment in which the value of a name holds the reference to another one. -/
def crossed (name last : List Char) : Environment :=
  [(String.ofList name, String.ofList (referenceTo last)),
    (String.ofList last, String.ofList (fill last))]

theorem isPossible_crossed {last : List Char} (hname : IsVariable name) (hlast : IsVariable last)
    (hne : name ≠ last) : IsPossible (crossed name last) where
  names := by simpa [crossed] using ⟨hname, hlast⟩
  values := by
    have hfill : '\x00' ∉ fill last := not_mem_fill (by decide) last
    simpa [crossed, referenceTo] using ⟨hlast.noNul, hfill⟩
  unique := by simpa [crossed] using fun heq => hne (String.ofList_injective heq)

/-- A value that holds the reference that is put in last is expanded. -/
theorem not_isOnePass_crossed {s : String} {front : List (List Char)} {last : List Char}
    (h : referencesFrom 0 s.toList = front ++ [last]) (hmem : name ∈ front)
    (hne : name ≠ last) :
    ¬IsOnePass (crossed name last) s (resolveText (crossed name last) s) := by
  have hname : valueOf (crossed name last) name = referenceTo last :=
    valueOf_cons_self name _ _
  have hlast : valueOf (crossed name last) last = fill last := by
    rw [crossed, valueOf_cons_of_ne hne.symm, valueOf_cons_self]
  intro hpass
  have hoccurs := infix_of_isOnePass hpass (h ▸ List.mem_append_left _ hmem)
  rw [hname, toList_resolveText, h, List.foldl_append, List.foldl_cons, List.foldl_nil,
    substitute, hlast] at hoccurs
  exact not_infix_replaceAll (length_fill last).ge (not_mem_fill (by decide) last)
    (not_mem_fill (by decide) last) _ hoccurs

/-- With two references to variables there is an environment in which a value is expanded. -/
theorem length_le_one_of_forall {s : String}
    (hvariables : ∀ name ∈ referencesFrom 0 s.toList, IsVariable name)
    (h : ∀ environment, IsPossible environment →
      IsOnePass environment s (resolveText environment s)) :
    (referencesFrom 0 s.toList).length ≤ 1 := by
  by_contra hmany
  rcases List.eq_nil_or_concat (referencesFrom 0 s.toList) with hnil | ⟨front, last, hnames⟩
  · simp [hnil] at hmany
  rw [List.concat_eq_append] at hnames
  have hlast : IsVariable last := hvariables last (by simp [hnames])
  -- A value is expanded by what comes after it: by the same name, or else by the last one.
  by_cases hsame : ∀ name ∈ referencesFrom 0 s.toList, name = last
  · obtain ⟨more, hmore⟩ := Nat.exists_eq_add_of_le' (Nat.lt_of_not_le hmany)
    have hall := List.eq_replicate_iff.mpr ⟨hmore, hsame⟩
    exact not_isOnePass_nested hall (h _ (isPossible_nested hlast))
  · push Not at hsame
    obtain ⟨name, hmem, hne⟩ := hsame
    have hfront : name ∈ front := by
      rw [hnames] at hmem
      simpa [hne] using hmem
    exact not_isOnePass_crossed hnames hfront hne
      (h _ (isPossible_crossed (hvariables name hmem) hlast hne))

/-! ## Configurations -/

mutual

/-- The texts of a value, in order. -/
def texts : Value → List String
  | .text s => [s]
  | .list items => textsOfItems items
  | .object fields => textsOfFields fields
  | _ => []

/-- The texts of the items of a list. -/
def textsOfItems : List Value → List String
  | [] => []
  | item :: rest => texts item ++ textsOfItems rest

/-- The texts of the values of fields. -/
def textsOfFields : List (String × Value) → List String
  | [] => []
  | (_, value) :: rest => texts value ++ textsOfFields rest

end

mutual

/-- The texts of a resolved value are its texts, each resolved. -/
theorem texts_resolve (environment : Environment) (value : Value) :
    texts (resolve environment value) = (texts value).map (resolveText environment) := by
  cases value with
  | text s => rfl
  | list items => exact textsOfItems_resolveItems environment items
  | object fields => exact textsOfFields_resolveFields environment fields
  | null => rfl
  | bool b => rfl
  | int n => rfl
  | float x => rfl

theorem textsOfItems_resolveItems (environment : Environment) (items : List Value) :
    textsOfItems (resolveItems environment items)
      = (textsOfItems items).map (resolveText environment) := by
  cases items with
  | nil => rfl
  | cons item rest =>
    rw [resolveItems, textsOfItems, textsOfItems, List.map_append, texts_resolve environment item,
      textsOfItems_resolveItems environment rest]

theorem textsOfFields_resolveFields (environment : Environment) (fields : List (String × Value)) :
    textsOfFields (resolveFields environment fields)
      = (textsOfFields fields).map (resolveText environment) := by
  cases fields with
  | nil => rfl
  | cons field rest =>
    obtain ⟨name, value⟩ := field
    rw [resolveFields, textsOfFields, textsOfFields, List.map_append,
      texts_resolve environment value, textsOfFields_resolveFields environment rest]

end

/-- A configuration is resolved in one pass if each of its texts is. -/
theorem forall₂_isOnePass_iff {config : Value} :
    List.Forall₂ (IsOnePass environment) (texts config) (texts (resolve environment config))
      ↔ ∀ s ∈ texts config, IsOnePass environment s (resolveText environment s) := by
  rw [texts_resolve, List.forall₂_map_right_iff, List.forall₂_same]

/--
The texts of a configuration are resolved in one pass where they are plain or refer to one
variable. That is as far as it goes: as soon as one of them refers to variables twice, whatever
else it looks like, there is an environment in which a value that was put in is expanded.
-/
theorem texts_resolve_in_one_pass (config : Value) :
    (∀ environment,
      (∀ s ∈ texts config,
        IsPlain environment s.toList ∨ (referencesFrom 0 s.toList).length ≤ 1) →
      List.Forall₂ (IsOnePass environment) (texts config) (texts (resolve environment config)))
    ∧ ((∀ s ∈ texts config, ∀ name ∈ referencesFrom 0 s.toList, IsVariable name) →
      ((∀ environment, IsPossible environment →
          List.Forall₂ (IsOnePass environment) (texts config) (texts (resolve environment config)))
        ↔ ∀ s ∈ texts config, (referencesFrom 0 s.toList).length ≤ 1)) := by
  constructor
  · intro environment h
    rw [forall₂_isOnePass_iff]
    intro s hs
    rcases h s hs with hplain | hone
    · exact isOnePass_of_isPlain hplain
    · exact isOnePass_of_length_le_one hone environment
  · intro hvariables
    constructor
    · intro h s hs
      apply length_le_one_of_forall (hvariables s hs)
      intro environment hpossible
      exact forall₂_isOnePass_iff.mp (h environment hpossible) s hs
    · intro hone environment _
      rw [forall₂_isOnePass_iff]
      intro s hs
      exact isOnePass_of_length_le_one (hone s hs) environment

/-- Plain values of two variables come out in one pass, but not the values of every environment. -/
theorem texts_resolve_in_one_pass_user_at_host :
    List.Forall₂ (IsOnePass [("USER", "dump"), ("HOST", "db")])
      (texts (.text "$\x7bUSER\x7d@$\x7bHOST\x7d"))
      (texts (resolve [("USER", "dump"), ("HOST", "db")] (.text "$\x7bUSER\x7d@$\x7bHOST\x7d")))
    ∧ ¬∀ environment, IsPossible environment →
      List.Forall₂ (IsOnePass environment)
        (texts (.text "$\x7bUSER\x7d@$\x7bHOST\x7d"))
        (texts (resolve environment (.text "$\x7bUSER\x7d@$\x7bHOST\x7d"))) := by
  have hnames : referencesFrom 0 "$\x7bUSER\x7d@$\x7bHOST\x7d".toList
      = [['U', 'S', 'E', 'R'], ['H', 'O', 'S', 'T']] := by decide
  constructor
  · refine (texts_resolve_in_one_pass _).1 _ ?_
    intro s hs
    obtain rfl := List.mem_singleton.mp hs
    exact .inl ⟨by decide, by rw [hnames]; decide, by rw [hnames]; decide⟩
  · rw [(texts_resolve_in_one_pass _).2]
    · intro hone
      have htwo := hone _ (List.mem_singleton_self _)
      rw [hnames] at htwo
      simp at htwo
    · intro s hs
      obtain rfl := List.mem_singleton.mp hs
      rw [hnames]
      simpa using ⟨⟨by simp, by simp, by simp⟩, ⟨by simp, by simp, by simp⟩⟩

/-- A reference to B that was put in for A is expanded, as B is put in afterwards. -/
theorem value_put_in_is_expanded :
    resolveText [("A", "$\x7bB\x7d"), ("B", "x")] "$\x7bA\x7d$\x7bB\x7d" = "xx"
    ∧ IsOnePass [("A", "$\x7bB\x7d"), ("B", "x")] "$\x7bA\x7d$\x7bB\x7d" "$\x7bB\x7dx"
    ∧ ¬IsOnePass [("A", "$\x7bB\x7d"), ("B", "x")] "$\x7bA\x7d$\x7bB\x7d"
      (resolveText [("A", "$\x7bB\x7d"), ("B", "x")] "$\x7bA\x7d$\x7bB\x7d") := by
  have hresolved :
      resolveText [("A", "$\x7bB\x7d"), ("B", "x")] "$\x7bA\x7d$\x7bB\x7d" = "xx" := by decide
  have htext : "$\x7bA\x7d$\x7bB\x7d".toList = referenceTo ['A'] ++ (referenceTo ['B'] ++ []) := by
    decide
  have hcut : IsCut "$\x7bA\x7d$\x7bB\x7d".toList [.reference ['A'], .reference ['B']] := by
    rw [htext]
    exact .reference ⟨by simp, by simp⟩ (.reference ⟨by simp, by simp⟩ .nil)
  have hpass :
      IsOnePass [("A", "$\x7bB\x7d"), ("B", "x")] "$\x7bA\x7d$\x7bB\x7d" "$\x7bB\x7dx" :=
    ⟨_, hcut, by decide⟩
  refine ⟨hresolved, hpass, ?_⟩
  intro hother
  rw [hresolved] at hother
  have heq := (existsUnique_isOnePass _ _).unique hpass hother
  revert heq
  decide

end Config

end DatabaseDump
