import DatabaseDump.ViewOrder
import Mathlib.Data.Fintype.Pigeonhole
import Mathlib.Data.List.Sort
import Mathlib.Logic.Relation

/-!
# Views follow the views they depend on

A scan places a view when nothing that still waits is referred to by it. So whatever is
placed refers only to what was placed before it, and this survives from scan to scan:
`Settled` is the invariant. Once a scan places nothing, every view that is left refers
to another one that is left. There are only finitely many, so from each of them the
references run into a circle; and from a placed view they cannot, because along them the
place in the order only goes down.

Views are spoken of by their positions in the catalog, since names may repeat.
-/

namespace DatabaseDump.ViewOrder

/-! ## Graphs with circles -/

/-- Whether following the relation from somewhere can reach a circle. -/
def ReachesCircle (R : Nat → Nat → Prop) (i : Nat) : Prop :=
  ∃ j, Relation.ReflTransGen R i j ∧ Relation.TransGen R j j

/-- Where every step goes down and stays inside, no circle is reached. -/
theorem not_reachesCircle_of_rank {R : Nat → Nat → Prop} {inside : Nat → Prop} (rank : Nat → Nat)
    (h : ∀ i j, inside i → R i j → inside j ∧ rank j < rank i) {i : Nat} (hi : inside i) :
    ¬ReachesCircle R i := by
  have hinside : ∀ j, Relation.ReflTransGen R i j → inside j := by
    intro j hreach
    induction hreach with
    | refl => exact hi
    | tail _ hstep ih => exact (h _ _ ih hstep).1
  rintro ⟨j, hreach, hcircle⟩
  have hj : inside j := hinside j hreach
  have hdown : ∀ k, Relation.TransGen R j k → inside k ∧ rank k < rank j := by
    intro k hk
    induction hk with
    | single hstep => exact h _ _ hj hstep
    | tail _ hstep ih =>
      have := h _ _ ih.1 hstep
      exact ⟨this.1, by omega⟩
  exact Nat.lt_irrefl _ (hdown j hcircle).2

/-- Where every member of a list can step to a member, all of them reach a circle. -/
theorem reachesCircle_of_blocked {R : Nat → Nat → Prop} {left : List Nat}
    (h : ∀ i ∈ left, ∃ k ∈ left, R i k) {i : Nat} (hi : i ∈ left) : ReachesCircle R i := by
  choose! next hmem hstep using h
  have hin : ∀ n, next^[n] i ∈ left := by
    intro n
    induction n with
    | zero => exact hi
    | succ n ih =>
      rw [Function.iterate_succ_apply']
      exact hmem _ ih
  have hwalk : ∀ m n, Relation.ReflTransGen R (next^[m] i) (next^[m + n] i) := by
    intro m n
    induction n with
    | zero => exact Relation.ReflTransGen.refl
    | succ n ih =>
      refine ih.tail ?_
      rw [← Nat.add_assoc, Function.iterate_succ_apply']
      exact hstep _ (hin _)
  -- two places of the walk coincide, because the list is finite
  let walk : Nat → left.toFinset := fun n => ⟨next^[n] i, List.mem_toFinset.mpr (hin n)⟩
  obtain ⟨a, b, hne, heq⟩ := Finite.exists_ne_map_eq_of_infinite walk
  have hsame : next^[a] i = next^[b] i := congrArg Subtype.val heq
  wlog hlt : a < b generalizing a b with hswap
  · exact hswap b a hne.symm heq.symm hsame.symm (by omega)
  have hreach : Relation.ReflTransGen R i (next^[a] i) := by simpa using hwalk 0 a
  refine ⟨next^[a] i, hreach, ?_⟩
  have hfirst : R (next^[a] i) (next^[a + 1] i) := by
    rw [Function.iterate_succ_apply']
    exact hstep _ (hin a)
  have hback := hwalk (a + 1) (b - (a + 1))
  rw [show a + 1 + (b - (a + 1)) = b by omega, ← hsame] at hback
  exact Relation.TransGen.head' hfirst hback

/-! ## What a scan does -/

/-- What is placed refers to nothing that is placed later or still waits. -/
structure Settled (refers : Nat → Nat → Bool) (placed waiting : List Nat) : Prop where
  later : placed.Pairwise fun i k => refers i k = false
  apart : ∀ i ∈ placed, ∀ k ∈ waiting, refers i k = false

theorem scan_perm (refers : Nat → Nat → Bool) (kept waiting : List Nat) :
    ((scan refers kept waiting).1 ++ (scan refers kept waiting).2).Perm (kept ++ waiting) := by
  induction waiting generalizing kept with
  | nil => simp [scan]
  | cons i rest ih =>
    simp only [scan]
    split
    · simpa using ih (kept ++ [i])
    · exact ((ih kept).cons i).trans List.perm_middle.symm

theorem scan_sublist (refers : Nat → Nat → Bool) (kept waiting : List Nat) :
    (scan refers kept waiting).2.Sublist (kept ++ waiting) := by
  induction waiting generalizing kept with
  | nil => simp [scan]
  | cons i rest ih =>
    simp only [scan]
    split
    · simpa using ih (kept ++ [i])
    · exact (ih kept).trans (List.sublist_cons_self i rest |>.append_left kept)

/-- **A scan settles what it places.** -/
theorem scan_settled (refers : Nat → Nat → Bool) (kept waiting : List Nat) :
    Settled refers (scan refers kept waiting).1 (scan refers kept waiting).2 := by
  induction waiting generalizing kept with
  | nil => exact ⟨by simp [scan], by simp [scan]⟩
  | cons i rest ih =>
    simp only [scan]
    split
    · exact ih (kept ++ [i])
    · rename_i hfree
      have hfree' : ∀ k ∈ kept ++ rest, refers i k = false := by
        intro k hk
        by_contra hrefers
        exact hfree (List.any_eq_true.mpr ⟨k, hk, by simpa using hrefers⟩)
      have hsplit : ∀ k, k ∈ (scan refers kept rest).1 ∨ k ∈ (scan refers kept rest).2 →
          refers i k = false := by
        intro k hk
        exact hfree' k ((scan_perm refers kept rest).mem_iff.mp (List.mem_append.mpr hk))
      refine ⟨List.pairwise_cons.mpr ⟨fun k hk => hsplit k (.inl hk), (ih kept).later⟩, ?_⟩
      intro j hj k hk
      rcases List.mem_cons.mp hj with rfl | hj
      · exact hsplit k (.inr hk)
      · exact (ih kept).apart j hj k hk

/-- When a scan places nothing, all that was scanned refers to something else that waits. -/
theorem scan_blocked {refers : Nat → Nat → Bool} (kept waiting : List Nat)
    (hnodup : (kept ++ waiting).Nodup) (hnone : (scan refers kept waiting).1 = []) :
    ∀ i ∈ waiting, ∃ k ∈ kept ++ waiting, i ≠ k ∧ refers i k = true := by
  induction waiting generalizing kept with
  | nil => intro i hi; cases hi
  | cons i rest ih =>
    simp only [scan] at hnone
    split at hnone
    · rename_i hrefers
      intro j hj
      rcases List.mem_cons.mp hj with rfl | hj
      · obtain ⟨k, hk, hjk⟩ := List.any_eq_true.mp hrefers
        have hne : j ≠ k := by
          rintro rfl
          exact (List.nodup_middle.mp hnodup).notMem hk
        refine ⟨k, ?_, hne, hjk⟩
        rcases List.mem_append.mp hk with hk | hk
        · exact List.mem_append_left _ hk
        · exact List.mem_append_right _ (List.mem_cons_of_mem _ hk)
      · simpa using ih (kept ++ [i]) (by simpa using hnodup) hnone j hj
    · cases hnone

/-! ## What repeated scans do -/

theorem arrange_perm (refers : Nat → Nat → Bool) (waiting : List Nat) :
    ((arrange refers waiting).1 ++ (arrange refers waiting).2).Perm waiting := by
  fun_induction arrange refers waiting with
  | case1 waiting stuck hscan =>
    simpa [hscan] using scan_perm refers [] waiting
  | case2 waiting i placed rest hscan later stuck hlater ih =>
    have hperm := scan_perm refers [] waiting
    rw [hscan] at hperm
    rw [hlater] at ih
    rw [List.append_assoc]
    exact (ih.append_left (i :: placed)).trans hperm

theorem arrange_sublist (refers : Nat → Nat → Bool) (waiting : List Nat) :
    (arrange refers waiting).2.Sublist waiting := by
  fun_induction arrange refers waiting with
  | case1 waiting stuck hscan =>
    simpa [hscan] using scan_sublist refers [] waiting
  | case2 waiting i placed rest hscan later stuck hlater ih =>
    have hsub := scan_sublist refers [] waiting
    rw [hscan] at hsub
    rw [hlater] at ih
    exact ih.trans hsub

/-- **All that is placed is settled**, also across scans. -/
theorem arrange_settled (refers : Nat → Nat → Bool) (waiting : List Nat) :
    Settled refers (arrange refers waiting).1 (arrange refers waiting).2 := by
  fun_induction arrange refers waiting with
  | case1 waiting stuck hscan => exact ⟨List.Pairwise.nil, fun i hi => absurd hi (by simp)⟩
  | case2 waiting i placed rest hscan later stuck hlater ih =>
    have hfirst := scan_settled refers [] waiting
    have hrest := arrange_perm refers rest
    rw [hscan] at hfirst
    rw [hlater] at ih hrest
    have hwaits : ∀ k, k ∈ later ∨ k ∈ stuck → k ∈ rest := by
      intro k hk
      exact hrest.mem_iff.mp (List.mem_append.mpr hk)
    constructor
    · refine List.pairwise_append.mpr ⟨hfirst.later, ih.later, ?_⟩
      intro j hj k hk
      exact hfirst.apart j hj k (hwaits k (.inl hk))
    · intro j hj k hk
      rcases List.mem_append.mp hj with hj | hj
      · exact hfirst.apart j hj k (hwaits k (.inr hk))
      · exact ih.apart j hj k hk

/-- What is stuck refers to something else that is stuck. -/
theorem arrange_blocked (refers : Nat → Nat → Bool) (waiting : List Nat) (h : waiting.Nodup) :
    ∀ i ∈ (arrange refers waiting).2,
      ∃ k ∈ (arrange refers waiting).2, i ≠ k ∧ refers i k = true := by
  fun_induction arrange refers waiting with
  | case1 waiting stuck hscan =>
    have hperm := scan_perm refers [] waiting
    rw [hscan] at hperm
    intro i hi
    obtain ⟨k, hk, hne, hrefers⟩ := scan_blocked [] waiting (by simpa using h) (by rw [hscan]) i
      (hperm.mem_iff.mp hi)
    exact ⟨k, hperm.mem_iff.mpr hk, hne, hrefers⟩
  | case2 waiting i placed rest hscan later stuck hlater ih =>
    have hperm := scan_perm refers [] waiting
    rw [hscan] at hperm
    rw [hlater] at ih
    exact ih (hperm.nodup_iff.mpr h).of_append_right

/-! ## Dependencies between the views of a catalog -/

variable {detector : Value → Value → Bool} {definitions : List Definition} {i j : Nat}

/-- Whether the definition at a position is a view. -/
def IsViewAt (definitions : List Definition) (i : Nat) : Prop :=
  ∃ view, definitions[i]? = some view ∧ view.table.isView = true

/-- The view at one position refers to the name of the view at another position. -/
def DependsOn (detector : Value → Value → Bool) (definitions : List Definition) (i j : Nat) :
    Prop :=
  i ≠ j ∧ ∃ view other, definitions[i]? = some view ∧ definitions[j]? = some other
    ∧ view.table.isView = true ∧ other.table.isView = true
    ∧ detector view.creation other.table.name = true

/-- A view from which dependencies lead to a circle. -/
def IsStuck (detector : Value → Value → Bool) (definitions : List Definition) (i : Nat) : Prop :=
  IsViewAt definitions i ∧ ReachesCircle (DependsOn detector definitions) i

theorem mem_viewPositions : i ∈ viewPositions definitions ↔ IsViewAt definitions i := by
  simp only [viewPositions, IsViewAt, List.mem_filter, List.mem_range, Option.any_eq_true]
  constructor
  · rintro ⟨-, view, hview, his⟩
    exact ⟨view, hview, his⟩
  · rintro ⟨view, hview, his⟩
    exact ⟨(List.getElem?_eq_some_iff.mp hview).1, view, hview, his⟩

theorem nodup_viewPositions (definitions : List Definition) : (viewPositions definitions).Nodup :=
  List.nodup_range.filter _

/-- The positions of views are listed in catalog order. -/
theorem pairwise_viewPositions (definitions : List Definition) :
    (viewPositions definitions).Pairwise (· < ·) :=
  List.pairwise_lt_range.filter _

theorem positions_perm (detector : Value → Value → Bool) (definitions : List Definition) :
    (positions detector definitions).1.Perm (List.range definitions.length) := by
  have hviews := arrange_perm (refersAt detector definitions.toArray) (viewPositions definitions)
  have hall := List.filter_append_perm (fun i => !definitions[i]?.any (·.table.isView))
    (List.range definitions.length)
  simp only [Bool.not_not] at hall
  simp only [positions, List.append_assoc]
  exact (hviews.append_left _).trans hall

theorem dependsOn_iff (hi : IsViewAt definitions i) (hj : IsViewAt definitions j) (hne : i ≠ j) :
    DependsOn detector definitions i j ↔ refersAt detector definitions.toArray i j = true := by
  obtain ⟨view, hview, his⟩ := hi
  obtain ⟨other, hother, his'⟩ := hj
  simp [DependsOn, refersAt, hne, hview, hother, his, his']

theorem DependsOn.left (h : DependsOn detector definitions i j) : IsViewAt definitions i := by
  obtain ⟨-, view, -, hview, -, his, -⟩ := h
  exact ⟨view, hview, his⟩

theorem DependsOn.right (h : DependsOn detector definitions i j) : IsViewAt definitions j := by
  obtain ⟨-, -, other, -, hother, -, his, -⟩ := h
  exact ⟨other, hother, his⟩

/-! ## Where the views come to stand -/

/-- If nothing follows what must come after it, then what must come after does come after. -/
theorem idxOf_lt_of_pairwise {P : Nat → Nat → Prop} {order : List Nat} (h : order.Pairwise P)
    (hi : i ∈ order) (hj : j ∈ order) (hne : i ≠ j) (hP : ¬P i j) :
    order.idxOf j < order.idxOf i := by
  have hi' := List.idxOf_lt_length_of_mem hi
  have hj' := List.idxOf_lt_length_of_mem hj
  rcases Nat.lt_trichotomy (order.idxOf i) (order.idxOf j) with hlt | heq | hgt
  · have hPij := List.pairwise_iff_getElem.mp h _ _ hi' hj' hlt
    rw [List.getElem_idxOf, List.getElem_idxOf] at hPij
    exact absurd hPij hP
  · have hsame : order[order.idxOf i] = order[order.idxOf j] := by simp only [heq]
    rw [List.getElem_idxOf, List.getElem_idxOf] at hsame
    exact absurd hsame hne
  · exact hgt

/-- The views that the scans place, in the order in which they do. -/
def placedViews (detector : Value → Value → Bool) (definitions : List Definition) : List Nat :=
  (arrange (refersAt detector definitions.toArray) (viewPositions definitions)).1

/-- The views that the scans leave. -/
def stuckViews (detector : Value → Value → Bool) (definitions : List Definition) : List Nat :=
  (arrange (refersAt detector definitions.toArray) (viewPositions definitions)).2

theorem positions_eq (detector : Value → Value → Bool) (definitions : List Definition) :
    positions detector definitions
      = (otherPositions definitions ++ placedViews detector definitions
          ++ stuckViews detector definitions, stuckViews detector definitions) := rfl

theorem views_perm (detector : Value → Value → Bool) (definitions : List Definition) :
    (placedViews detector definitions ++ stuckViews detector definitions).Perm
      (viewPositions definitions) :=
  arrange_perm _ _

theorem views_settled (detector : Value → Value → Bool) (definitions : List Definition) :
    Settled (refersAt detector definitions.toArray) (placedViews detector definitions)
      (stuckViews detector definitions) :=
  arrange_settled _ _

theorem views_blocked (detector : Value → Value → Bool) (definitions : List Definition) :
    ∀ i ∈ stuckViews detector definitions, ∃ k ∈ stuckViews detector definitions,
      i ≠ k ∧ refersAt detector definitions.toArray i k = true :=
  arrange_blocked _ _ (nodup_viewPositions definitions)

theorem stuckViews_sublist (detector : Value → Value → Bool) (definitions : List Definition) :
    (stuckViews detector definitions).Sublist (viewPositions definitions) :=
  arrange_sublist _ _

theorem placed_or_stuck (detector : Value → Value → Bool) (hi : IsViewAt definitions i) :
    i ∈ placedViews detector definitions ∨ i ∈ stuckViews detector definitions :=
  List.mem_append.mp ((views_perm detector definitions).mem_iff.mpr (mem_viewPositions.mpr hi))

theorem isViewAt_of_stuck (hi : i ∈ stuckViews detector definitions) : IsViewAt definitions i :=
  mem_viewPositions.mp ((stuckViews_sublist detector definitions).subset hi)

/-- What a placed view depends on was placed before it. -/
theorem placed_of_dependsOn (h : DependsOn detector definitions i j)
    (hi : i ∈ placedViews detector definitions) :
    j ∈ placedViews detector definitions
    ∧ (placedViews detector definitions).idxOf j < (placedViews detector definitions).idxOf i := by
  have hsettled := views_settled detector definitions
  have hrefers := (dependsOn_iff h.left h.right h.1).mp h
  rcases placed_or_stuck detector h.right with hj | hj
  · refine ⟨hj, idxOf_lt_of_pairwise hsettled.later hi hj h.1 ?_⟩
    rw [hrefers]
    exact Bool.noConfusion
  · have hnot := hsettled.apart i hi j hj
    rw [hrefers] at hnot
    cases hnot

theorem not_isStuck_of_placed (hi : i ∈ placedViews detector definitions) :
    ¬IsStuck detector definitions i := by
  have hdown : ∀ k l, k ∈ placedViews detector definitions → DependsOn detector definitions k l →
      l ∈ placedViews detector definitions
      ∧ (placedViews detector definitions).idxOf l < (placedViews detector definitions).idxOf k :=
    fun k l hk h => placed_of_dependsOn h hk
  intro hstuck
  exact not_reachesCircle_of_rank _ hdown hi hstuck.2

/-- **The views that are left are exactly those from which a circle can be reached.** -/
theorem mem_stuckViews :
    i ∈ stuckViews detector definitions ↔ IsStuck detector definitions i := by
  constructor
  · intro hi
    refine ⟨isViewAt_of_stuck hi, reachesCircle_of_blocked (fun k hk => ?_) hi⟩
    obtain ⟨l, hl, hne, hrefers⟩ := views_blocked detector definitions k hk
    exact ⟨l, hl, (dependsOn_iff (isViewAt_of_stuck hk) (isViewAt_of_stuck hl) hne).mpr hrefers⟩
  · intro hstuck
    rcases placed_or_stuck detector hstuck.1 with hi | hi
    · exact absurd hstuck (not_isStuck_of_placed hi)
    · exact hi

theorem not_isViewAt_of_mem_otherPositions (hi : i ∈ otherPositions definitions) :
    ¬IsViewAt definitions i := by
  rintro ⟨view, hview, his⟩
  have hnot := (List.mem_filter.mp hi).2
  simp [hview, his] at hnot

/--
What holds of a pair when the first one is no view, when it is placed and independent of
the second one, and when both are stuck in catalog order, holds along the whole order.
-/
theorem pairwise_positions {P : Nat → Nat → Prop}
    (hother : ∀ i k, ¬IsViewAt definitions i → P i k)
    (hplaced : ∀ i k, ¬IsStuck detector definitions i → ¬DependsOn detector definitions i k → P i k)
    (hstuck : ∀ i k, IsStuck detector definitions i → IsStuck detector definitions k → i < k →
      P i k) :
    (positions detector definitions).1.Pairwise P := by
  have hsettled := views_settled detector definitions
  have hsorted := (pairwise_viewPositions definitions).sublist (stuckViews_sublist detector _)
  have hfree : ∀ i k, refersAt detector definitions.toArray i k = false →
      ¬DependsOn detector definitions i k := by
    intro i k hnot h
    rw [(dependsOn_iff h.left h.right h.1).mp h] at hnot
    cases hnot
  rw [positions_eq]
  refine List.pairwise_append.mpr ⟨List.pairwise_append.mpr ⟨?_, ?_, ?_⟩, ?_, ?_⟩
  · exact List.pairwise_of_forall_mem_list fun i hi k _ =>
      hother i k (not_isViewAt_of_mem_otherPositions hi)
  · refine hsettled.later.imp_of_mem fun hi _ hnot => ?_
    exact hplaced _ _ (not_isStuck_of_placed hi) (hfree _ _ hnot)
  · intro i hi k _
    exact hother i k (not_isViewAt_of_mem_otherPositions hi)
  · refine hsorted.imp_of_mem fun hi hk hlt => ?_
    exact hstuck _ _ (mem_stuckViews.mp hi) (mem_stuckViews.mp hk) hlt
  · intro i hi k hk
    rcases List.mem_append.mp hi with hi | hi
    · exact hother i k (not_isViewAt_of_mem_otherPositions hi)
    · exact hplaced i k (not_isStuck_of_placed hi) (hfree i k (hsettled.apart i hi k hk))

/-- An order of all definitions in which views respect their dependencies as far as they can. -/
structure RespectsDependencies (detector : Value → Value → Bool) (definitions : List Definition)
    (order : List Nat) : Prop where
  /-- Every definition has one place. -/
  perm : order.Perm (List.range definitions.length)
  /-- A view that is not stuck stands behind all that it depends on. -/
  follows : ∀ i j, DependsOn detector definitions i j → ¬IsStuck detector definitions i →
    order.idxOf j < order.idxOf i
  /-- The stuck views stand behind all others. -/
  stuck_last : ∀ i j, IsStuck detector definitions i → IsViewAt definitions j →
    ¬IsStuck detector definitions j → order.idxOf j < order.idxOf i
  /-- The stuck views keep their catalog order. -/
  stuck_in_order : ∀ i j, IsStuck detector definitions i → IsStuck detector definitions j → i < j →
    order.idxOf i < order.idxOf j

theorem IsViewAt.mem_order {order : List Nat} (hi : IsViewAt definitions i)
    (hperm : order.Perm (List.range definitions.length)) : i ∈ order := by
  obtain ⟨view, hview, -⟩ := hi
  exact hperm.mem_iff.mpr (List.mem_range.mpr (List.getElem?_eq_some_iff.mp hview).1)

theorem respectsDependencies_positions (detector : Value → Value → Bool)
    (definitions : List Definition) :
    RespectsDependencies detector definitions (positions detector definitions).1 := by
  have hperm := positions_perm detector definitions
  refine ⟨hperm, ?_, ?_, ?_⟩
  · intro i j hdepends hnot
    have hall : (positions detector definitions).1.Pairwise fun i k =>
        ¬IsStuck detector definitions i → ¬DependsOn detector definitions i k := by
      refine pairwise_positions ?_ ?_ ?_
      · intro i k hview _ h
        exact hview h.left
      · intro i k _ hfree _
        exact hfree
      · intro i k hstuck _ _ hnot
        exact absurd hstuck hnot
    exact idxOf_lt_of_pairwise hall (hdepends.left.mem_order hperm)
      (hdepends.right.mem_order hperm) hdepends.1 (fun h => h hnot hdepends)
  · intro i j hstuck hview hnot
    have hall : (positions detector definitions).1.Pairwise fun i k =>
        IsStuck detector definitions i → IsStuck detector definitions k := by
      refine pairwise_positions ?_ ?_ ?_
      · intro i k hview h
        exact absurd h.1 hview
      · intro i k hnot _ h
        exact absurd h hnot
      · intro i k _ hk _ _
        exact hk
    have hne : i ≠ j := by
      rintro rfl
      exact hnot hstuck
    exact idxOf_lt_of_pairwise hall (hstuck.1.mem_order hperm) (hview.mem_order hperm) hne
      (fun h => hnot (h hstuck))
  · intro i j hi hj hlt
    have hall : (positions detector definitions).1.Pairwise fun i k =>
        IsStuck detector definitions i → IsStuck detector definitions k → i < k := by
      refine pairwise_positions ?_ ?_ ?_
      · intro i k hview h _
        exact absurd h.1 hview
      · intro i k hnot _ h _
        exact absurd h hnot
      · intro i k _ _ hlt _ _
        exact hlt
    exact idxOf_lt_of_pairwise hall (hj.1.mem_order hperm) (hi.1.mem_order hperm) (by omega)
      (fun h => absurd (h hj hi) (by omega))

/-! ## The definitions at some positions -/

/-- What is picked at a position is the definition there. -/
theorem map_some_pick {definitions : List Definition} {order : List Nat}
    (h : ∀ i ∈ order, i < definitions.length) :
    (pick definitions order).map some = order.map fun i => definitions[i]? := by
  induction order with
  | nil => rfl
  | cons i order ih =>
    have hi := List.getElem?_eq_getElem (h i (by simp))
    rw [pick, List.filterMap_cons_some hi, List.map_cons, List.map_cons, hi]
    exact congrArg _ (ih fun k hk => h k (List.mem_cons_of_mem _ hk))

theorem map_getElem?_range (definitions : List Definition) :
    (List.range definitions.length).map (fun i => definitions[i]?) = definitions.map some := by
  refine List.ext_getElem (by simp) fun i h _ => ?_
  rw [List.length_map, List.length_range] at h
  simp [h]

/-- Picking the positions that pass a test keeps the definitions that pass it. -/
theorem pick_filter_range (definitions : List Definition) (test : Option Definition → Bool) :
    pick definitions ((List.range definitions.length).filter fun i => test definitions[i]?)
      = definitions.filter fun definition => test (some definition) := by
  refine List.map_injective_iff.mpr (Option.some_injective _) ?_
  rw [map_some_pick fun i hi => List.mem_range.mp (List.mem_filter.mp hi).1]
  calc ((List.range definitions.length).filter fun i => test definitions[i]?).map
        (fun i => definitions[i]?)
    _ = ((List.range definitions.length).map fun i => definitions[i]?).filter test :=
        List.filter_map.symm
    _ = (definitions.filter fun definition => test (some definition)).map some := by
        rw [map_getElem?_range, List.filter_map]
        rfl

theorem pick_viewPositions (definitions : List Definition) :
    pick definitions (viewPositions definitions) = definitions.filter (·.table.isView) :=
  pick_filter_range definitions (Option.any fun view : Definition => view.table.isView)

theorem pick_otherPositions (definitions : List Definition) :
    pick definitions (otherPositions definitions)
      = definitions.filter fun definition => !definition.table.isView :=
  pick_filter_range definitions fun definition =>
    !definition.any fun view : Definition => view.table.isView

/-- All definitions in the order of their creation are the tables and then the views. -/
theorem pick_positions (detector : Value → Value → Bool) (definitions : List Definition) :
    pick definitions (positions detector definitions).1
      = (definitions.filter fun definition => !definition.table.isView)
        ++ pick definitions
          (placedViews detector definitions ++ stuckViews detector definitions) := by
  rw [positions_eq, List.append_assoc, pick, List.filterMap_append, ← pick_otherPositions]
  rfl

/-! ## The warning -/

/-- Names that are texts can be listed. -/
theorem listedNames_of_texts {definitions : List Definition} {names : List String}
    (h : definitions.map (·.table.name) = names.map .text) :
    listedNames definitions = .ok names := by
  unfold listedNames
  generalize 0 = start
  induction definitions generalizing names start with
  | nil =>
    obtain rfl : names = [] := by simpa using h.symm
    rfl
  | cons definition definitions ih =>
    cases names with
    | nil => cases h
    | cons name names =>
      obtain ⟨hname, hnames⟩ := List.cons.inj h
      rw [List.zipIdx_cons, List.mapM_cons, ih hnames]
      simp only [hname]
      rfl

/-- There is one warning, and only when there is a name to list. -/
theorem warnings_of_texts {picked : List Definition} {names : List String}
    (h : picked.map (·.table.name) = names.map .text) :
    warnings picked = .ok (if names = [] then [] else [warning names]) := by
  cases picked with
  | nil =>
    obtain rfl : names = [] := by simpa using h.symm
    rfl
  | cons definition picked =>
    have hne : names ≠ [] := by
      rintro rfl
      cases h
    rw [warnings, if_neg (by simp), if_neg hne, listedNames_of_texts h]
    rfl

/-- The names at some positions, when all names are texts. -/
theorem exists_names {definitions : List Definition}
    (hnames : ∀ definition ∈ definitions, ∃ name, definition.table.name = .text name)
    (picked : List Definition) (hpicked : ∀ definition ∈ picked, definition ∈ definitions) :
    ∃ names : List String, picked.map (·.table.name) = names.map .text := by
  induction picked with
  | nil => exact ⟨[], rfl⟩
  | cons definition picked ih =>
    obtain ⟨name, hname⟩ := hnames definition (hpicked definition (by simp))
    obtain ⟨names, hrest⟩ := ih fun d hd => hpicked d (List.mem_cons_of_mem _ hd)
    exact ⟨name :: names, by rw [List.map_cons, List.map_cons, hname, hrest]⟩

/--
**The order of views respects their dependencies, and the warning names what it cannot.**

A view that no circle can be reached from follows all that it depends on, the others
come last in catalog order, and they are what the one warning lists, if there are any.
So without circles every view follows all views that it depends on.
-/
theorem positions_respect_dependencies (detector : Value → Value → Bool)
    (definitions : List Definition)
    (hnames : ∀ definition ∈ definitions, ∃ name, definition.table.name = .text name) :
    ∃ (order stuck : List Nat) (names : List String),
      positions detector definitions = (order, stuck)
      ∧ (pick definitions order).map some = order.map (fun i => definitions[i]?)
      ∧ RespectsDependencies detector definitions order
      ∧ ((∀ i, ¬Relation.TransGen (DependsOn detector definitions) i i) →
          ∀ i j, DependsOn detector definitions i j → order.idxOf j < order.idxOf i)
      ∧ stuck.Pairwise (· < ·) ∧ (∀ i, i ∈ stuck ↔ IsStuck detector definitions i)
      ∧ stuck.map (fun i => definitions[i]?.map (·.table.name)) = names.map (some ∘ .text)
      ∧ warnings (pick definitions stuck) = .ok (if stuck = [] then [] else
          [⟨.warning, "Circular view references, keeping catalog order for: "
            ++ String.intercalate ", " names⟩]) := by
  have hrespects := respectsDependencies_positions detector definitions
  have hstuck : ∀ i ∈ stuckViews detector definitions, i < definitions.length := by
    intro i hi
    obtain ⟨view, hview, -⟩ := isViewAt_of_stuck hi
    exact (List.getElem?_eq_some_iff.mp hview).1
  have hpick := map_some_pick hstuck
  obtain ⟨names, hlisted⟩ := exists_names hnames
    (pick definitions (stuckViews detector definitions)) (fun definition hd => by
      obtain ⟨i, -, hi⟩ := List.mem_filterMap.mp hd
      exact List.mem_of_getElem? hi)
  have hnamed : (stuckViews detector definitions).map (fun i => definitions[i]?.map (·.table.name))
      = names.map (some ∘ .text) := by
    have hmap := congrArg (List.map (Option.map (·.table.name))) hpick
    rw [List.map_map, List.map_map] at hmap
    calc (stuckViews detector definitions).map (fun i => definitions[i]?.map (·.table.name))
        = (pick definitions (stuckViews detector definitions)).map (some ∘ (·.table.name)) :=
          hmap.symm
      _ = ((pick definitions (stuckViews detector definitions)).map (·.table.name)).map some :=
          (List.map_map).symm
      _ = names.map (some ∘ .text) := by rw [hlisted, List.map_map]
  have hempty : names = [] ↔ stuckViews detector definitions = [] := by
    have hlength := congrArg List.length hnamed
    rw [List.length_map, List.length_map] at hlength
    rw [← List.length_eq_zero_iff, ← List.length_eq_zero_iff, hlength]
  refine ⟨_, stuckViews detector definitions, names, rfl, ?_, hrespects, ?_, ?_,
    fun i => mem_stuckViews, hnamed, ?_⟩
  · exact map_some_pick fun i hi => List.mem_range.mp (hrespects.perm.mem_iff.mp hi)
  · intro hacyclic i j hdepends
    refine hrespects.follows i j hdepends ?_
    rintro ⟨-, k, -, hcircle⟩
    exact hacyclic k hcircle
  · exact (pairwise_viewPositions definitions).sublist (stuckViews_sublist detector definitions)
  · rw [warnings_of_texts hlisted, if_congr hempty rfl rfl]
    rfl

/--
Views in a circle, a view that leads into it, and views beside it that stand before what
they depend on. Two of them bear the same name.
-/
theorem positions_respect_dependencies_circle :
    let definitions := [("a", "v", "b"), ("t", "r", "a"), ("b", "v", "a"), ("c", "v", "xbx"),
      ("d", "v", "e"), ("e", "v", "t"), ("e", "v", "")].map fun (name, kind, creation) =>
        (⟨⟨.text name, .text kind⟩, .text creation⟩ : Definition)
    (∀ definition ∈ definitions, ∃ name, definition.table.name = .text name)
    ∧ ∃ (order stuck : List Nat) (names : List String),
      positions mentions definitions = (order, stuck)
      ∧ RespectsDependencies mentions definitions order
      ∧ (∀ i, i ∈ stuck ↔ IsStuck mentions definitions i)
      ∧ stuck.map (fun i => definitions[i]?.map (·.table.name)) = names.map (some ∘ .text) := by
  intro definitions
  have hnames : ∀ definition ∈ definitions, ∃ name, definition.table.name = .text name := by
    intro definition hdefinition
    obtain ⟨entry, -, rfl⟩ := List.mem_map.mp hdefinition
    exact ⟨entry.1, rfl⟩
  obtain ⟨order, stuck, names, horder, -, hrespects, -, -, hstuck, hnamed, -⟩ :=
    positions_respect_dependencies mentions definitions hnames
  exact ⟨hnames, order, stuck, names, horder, hrespects, hstuck, hnamed⟩

end DatabaseDump.ViewOrder
