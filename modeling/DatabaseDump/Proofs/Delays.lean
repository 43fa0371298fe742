import DatabaseDump.Proofs.SettledOrder
import Mathlib.Data.Finset.Lattice.Fold
import Mathlib.Order.Lattice.Nat

/-!
# How long views wait

Where no view depends on itself through others, the order of views can be told without any scan.
A view waits for as many scans as the slowest of the views that it depends on, and for one more
if that view comes later in the catalog: the scan has passed over the first view by the time it
comes to the other one. A view that depends on nothing waits for no scan.

`IsDelay` is this equation. The scan with some number places exactly the views whose delay is that
number, as they come in the catalog, so the views end up sorted by their delays.
-/

namespace DatabaseDump.ViewOrder

variable {detector : Value → Value → Bool} {definitions : List Definition} {i j : Nat}

/-- The positions of the views that the view at a position depends on. -/
def dependencies (detector : Value → Value → Bool) (definitions : List Definition) (i : Nat) :
    Finset Nat :=
  (viewPositions definitions).toFinset.filter fun j =>
    i ∈ viewPositions definitions ∧ i ≠ j ∧ refersAt detector definitions.toArray i j = true

theorem mem_dependencies :
    j ∈ dependencies detector definitions i ↔ DependsOn detector definitions i j := by
  rw [dependencies, Finset.mem_filter, List.mem_toFinset, mem_viewPositions, mem_viewPositions]
  constructor
  · rintro ⟨hj, hi, hne, hrefers⟩
    exact (dependsOn_iff hi hj hne).mpr hrefers
  · intro h
    exact ⟨h.right, h.left, h.1, (dependsOn_iff h.left h.right h.1).mp h⟩

/-- `delay` says for every view how many scans pass over it. -/
def IsDelay (detector : Value → Value → Bool) (definitions : List Definition)
    (delay : Nat → Nat) : Prop :=
  ∀ i, delay i
    = (dependencies detector definitions i).sup fun j => delay j + if i < j then 1 else 0

/-! ## Delays -/

section

variable {delay : Nat → Nat}

theorem IsDelay.le_of_dependsOn (h : IsDelay detector definitions delay)
    (hdepends : DependsOn detector definitions i j) :
    delay j + (if i < j then 1 else 0) ≤ delay i := by
  rw [h i]
  exact Finset.le_sup (f := fun j => delay j + if i < j then 1 else 0)
    (mem_dependencies.mpr hdepends)

/-- Who waits, waits for somebody. -/
theorem IsDelay.exists_dependsOn (h : IsDelay detector definitions delay) (hpos : 0 < delay i) :
    ∃ j, DependsOn detector definitions i j ∧ delay i = delay j + if i < j then 1 else 0 := by
  have hsome : (dependencies detector definitions i).Nonempty := by
    refine Finset.nonempty_iff_ne_empty.mpr fun hempty => ?_
    rw [h i, hempty, Finset.sup_empty] at hpos
    exact Nat.lt_irrefl _ hpos
  obtain ⟨j, hj, hsup⟩ := Finset.exists_mem_eq_sup _ hsome fun j =>
    delay j + if i < j then 1 else 0
  exact ⟨j, mem_dependencies.mp hj, (h i).trans hsup⟩

end

theorem not_isStuck_of_acyclic
    (hacyclic : ∀ i, ¬Relation.TransGen (DependsOn detector definitions) i i) :
    ¬IsStuck detector definitions i := by
  rintro ⟨-, k, -, hcircle⟩
  exact hacyclic k hcircle

/-- Without circles there are delays, since they are found along the order. -/
theorem exists_isDelay
    (hacyclic : ∀ i, ¬Relation.TransGen (DependsOn detector definitions) i i) :
    ∃ delay, IsDelay detector definitions delay := by
  have hrespects := respectsDependencies_positions detector definitions
  have hdown : WellFounded fun j i => DependsOn detector definitions i j := by
    refine Subrelation.wf ?_ (measure (positions detector definitions).1.idxOf).wf
    intro j i hdepends
    exact hrespects.follows i j hdepends (not_isStuck_of_acyclic hacyclic)
  let slowest (i : Nat) (delay : ∀ j, DependsOn detector definitions i j → Nat) : Nat :=
    (dependencies detector definitions i).attach.sup fun j =>
      delay j (mem_dependencies.mp j.2) + if i < j then 1 else 0
  refine ⟨hdown.fix slowest, fun i => ?_⟩
  rw [hdown.fix_eq]
  exact Finset.sup_attach _ fun j => hdown.fix slowest j + if i < j then 1 else 0

/-! ## What the scan with some number places -/

section

variable {delay : Nat → Nat} {front back : List Nat}

/-- Views in front of a view have smaller positions, and those after it larger ones. -/
theorem lt_of_viewPositions_eq (hviews : viewPositions definitions = front ++ i :: back) :
    (∀ k ∈ front, k < i) ∧ ∀ k ∈ back, i < k := by
  have hsorted := pairwise_viewPositions definitions
  rw [hviews] at hsorted
  obtain ⟨-, hback, hfront⟩ := List.pairwise_append.mp hsorted
  exact ⟨fun k hk => hfront k hk i List.mem_cons_self, (List.pairwise_cons.mp hback).1⟩

theorem isViewAt_of_viewPositions_eq (hviews : viewPositions definitions = front ++ i :: back)
    (k : Nat) : k = i ∨ k ∈ front ∨ k ∈ back ↔ IsViewAt definitions k := by
  rw [← mem_viewPositions, hviews, List.mem_append, List.mem_cons]
  tauto

/-- A view is passed over when its delay is larger than the number of the scan. -/
theorem IsDelay.any_refersAt (h : IsDelay detector definitions delay) (number : Nat)
    (hviews : viewPositions definitions = front ++ i :: back) :
    ((front.filter fun k => decide (number < delay k))
        ++ back.filter fun k => decide (number ≤ delay k)).any
        (refersAt detector definitions.toArray i) = true
      ↔ number < delay i := by
  obtain ⟨hbefore, hafter⟩ := lt_of_viewPositions_eq hviews
  have hview := isViewAt_of_viewPositions_eq hviews
  have hi : IsViewAt definitions i := (hview i).mp (.inl rfl)
  rw [List.any_append, Bool.or_eq_true, List.any_eq_true, List.any_eq_true]
  constructor
  · rintro (⟨k, hk, hrefers⟩ | ⟨k, hk, hrefers⟩)
    · obtain ⟨hmem, hdelay⟩ := List.mem_filter.mp hk
      have hlt := hbefore k hmem
      have hk := (hview k).mp (.inr (.inl hmem))
      have hle := h.le_of_dependsOn ((dependsOn_iff hi hk (by omega)).mpr hrefers)
      have := of_decide_eq_true hdelay
      omega
    · obtain ⟨hmem, hdelay⟩ := List.mem_filter.mp hk
      have hlt := hafter k hmem
      have hk := (hview k).mp (.inr (.inr hmem))
      have hle := h.le_of_dependsOn ((dependsOn_iff hi hk (by omega)).mpr hrefers)
      have := of_decide_eq_true hdelay
      rw [if_pos hlt] at hle
      omega
  · intro hlt
    obtain ⟨k, hdepends, hdelay⟩ := h.exists_dependsOn (i := i) (by omega)
    have hrefers := (dependsOn_iff hi hdepends.right hdepends.1).mp hdepends
    rcases (hview k).mpr hdepends.right with rfl | hmem | hmem
    · exact absurd rfl hdepends.1
    · have hbefore := hbefore k hmem
      rw [if_neg (by omega)] at hdelay
      exact .inl ⟨k, List.mem_filter.mpr ⟨hmem, decide_eq_true (by omega)⟩, hrefers⟩
    · have hafter := hafter k hmem
      rw [if_pos hafter] at hdelay
      exact .inr ⟨k, List.mem_filter.mpr ⟨hmem, decide_eq_true (by omega)⟩, hrefers⟩

/-- **A scan places the views whose delay is its number**, of those that waited so long. -/
theorem IsDelay.scan_eq (h : IsDelay detector definitions delay) (number : Nat)
    (front back : List Nat) (hviews : viewPositions definitions = front ++ back) :
    scan (refersAt detector definitions.toArray)
        (front.filter fun k => decide (number < delay k))
        (back.filter fun k => decide (number ≤ delay k))
      = (back.filter fun k => decide (delay k = number),
        (front ++ back).filter fun k => decide (number < delay k)) := by
  induction back generalizing front with
  | nil => simp [scan]
  | cons i back ih =>
    have hrest := ih (front ++ [i]) (by simpa using hviews)
    have hany := h.any_refersAt number hviews
    rw [List.filter_append, List.append_assoc, List.singleton_append] at hrest
    rcases Nat.lt_trichotomy (delay i) number with hlt | heq | hgt
    · -- placed by an earlier scan
      rw [List.filter_cons_of_neg (by simpa using hlt), List.filter_cons_of_neg (by simp; omega)]
      rw [List.filter_cons_of_neg (by simp; omega), List.filter_nil, List.append_nil] at hrest
      exact hrest
    · rw [List.filter_cons_of_pos (by simp; omega), List.filter_cons_of_pos (by simpa using heq),
        scan, if_neg (by rw [hany]; omega)]
      rw [List.filter_cons_of_neg (by simp; omega), List.filter_nil, List.append_nil] at hrest
      rw [hrest]
    · rw [List.filter_cons_of_pos (by simp; omega), List.filter_cons_of_neg (by simp; omega),
        scan, if_pos (hany.mpr hgt)]
      rw [List.filter_cons_of_pos (by simpa using hgt), List.filter_nil] at hrest
      exact hrest

/-- **What is placed is sorted by delays**, and in catalog order where delays are the same. -/
theorem IsDelay.pairwise_arrange (h : IsDelay detector definitions delay) {waiting : List Nat}
    (number : Nat)
    (hwaiting : waiting
      = (viewPositions definitions).filter fun k => decide (number ≤ delay k)) :
    (arrange (refersAt detector definitions.toArray) waiting).1.Pairwise fun i k =>
      delay i < delay k ∨ delay i = delay k ∧ i < k := by
  fun_induction arrange (refersAt detector definitions.toArray) waiting generalizing number with
  | case1 waiting stuck hscan => exact List.Pairwise.nil
  | case2 waiting i placed rest hscan later stuck hlater ih =>
    have hnumber := h.scan_eq number [] (viewPositions definitions) rfl
    rw [List.filter_nil, List.nil_append, ← hwaiting, hscan] at hnumber
    obtain ⟨hplaced, hrest⟩ := Prod.mk.inj hnumber
    have hsame : ∀ k ∈ i :: placed, delay k = number := by
      intro k hk
      rw [hplaced] at hk
      exact of_decide_eq_true (List.mem_filter.mp hk).2
    have hlonger : ∀ k ∈ later, number < delay k := by
      intro k hk
      have hperm := arrange_perm (refersAt detector definitions.toArray) rest
      rw [hlater] at hperm
      have hmem := hperm.mem_iff.mp (List.mem_append_left _ hk)
      rw [hrest] at hmem
      exact of_decide_eq_true (List.mem_filter.mp hmem).2
    refine List.pairwise_append.mpr ⟨?_, ?_, ?_⟩
    · have hsorted : (i :: placed).Pairwise (· < ·) :=
        hplaced ▸ (pairwise_viewPositions definitions).filter _
      refine hsorted.imp_of_mem fun hk hl hlt => .inr ⟨?_, hlt⟩
      rw [hsame _ hk, hsame _ hl]
    · have hnext := ih (number + 1) hrest
      rwa [hlater] at hnext
    · intro k hk l hl
      have := hlonger l hl
      exact .inl (by rw [hsame k hk]; exact this)

end

/-! ## The order of views -/

/--
**Where dependencies have no circles, the views are sorted by their delays.**

Views of the same delay keep their catalog order. There is such a delay, and whatever solves its
equation sorts the views. Where every view already follows what it depends on, nothing is moved.
-/
theorem views_sorted_by_delay (detector : Value → Value → Bool) (definitions : List Definition)
    (hacyclic : ∀ i, ¬Relation.TransGen (DependsOn detector definitions) i i) :
    ∃ views : List Nat,
      (positions detector definitions).1 = otherPositions definitions ++ views
      ∧ views.Perm (viewPositions definitions)
      ∧ pick definitions (positions detector definitions).1
        = (definitions.filter fun definition => !definition.table.isView) ++ pick definitions views
      ∧ (∃ delay, IsDelay detector definitions delay)
      ∧ (∀ delay, IsDelay detector definitions delay →
        views.Pairwise fun i k => delay i < delay k ∨ delay i = delay k ∧ i < k)
      ∧ ((∀ i j, DependsOn detector definitions i j → j < i) →
        views = viewPositions definitions
        ∧ pick definitions views = definitions.filter (·.table.isView)) := by
  have hnone : stuckViews detector definitions = [] := by
    refine List.eq_nil_iff_forall_not_mem.mpr fun i hi => ?_
    exact not_isStuck_of_acyclic hacyclic (mem_stuckViews.mp hi)
  have hperm := views_perm detector definitions
  have hpick := pick_positions detector definitions
  have horder := positions_eq detector definitions
  rw [hnone, List.append_nil] at hperm hpick
  refine ⟨placedViews detector definitions, by rw [horder, hnone, List.append_nil], hperm, hpick,
    exists_isDelay hacyclic, fun delay h => ?_, fun hfollows => ?_⟩
  · exact h.pairwise_arrange 0 (by simp)
  · have hsettled : Settled (refersAt detector definitions.toArray) (viewPositions definitions)
        [] := by
      refine ⟨(pairwise_viewPositions definitions).imp_of_mem fun {i k} hi hk hlt => ?_, by simp⟩
      refine Bool.eq_false_iff.mpr fun hrefers => ?_
      have hdepends := (dependsOn_iff (mem_viewPositions.mp hi) (mem_viewPositions.mp hk)
        (Nat.ne_of_lt hlt)).mpr hrefers
      have := hfollows i k hdepends
      omega
    have harranged := arrange_of_settled hsettled (by simp)
    rw [List.append_nil] at harranged
    have hsame : placedViews detector definitions = viewPositions definitions :=
      congrArg Prod.fst harranged
    rw [hsame]
    exact ⟨rfl, pick_viewPositions definitions⟩

/-- A view on two views that rest on a third one, which comes last in the catalog. -/
theorem views_sorted_by_delay_diamond :
    let definitions := [("top", "v", "left right"), ("left", "v", "base"), ("t", "r", ""),
      ("right", "v", "base"), ("base", "v", "t")].map fun (name, kind, creation) =>
        (⟨⟨.text name, .text kind⟩, .text creation⟩ : Definition)
    (∀ i, ¬Relation.TransGen (DependsOn mentions definitions) i i)
    ∧ (positions mentions definitions).1 = [2] ++ [4, 1, 3, 0]
    ∧ ∃ delay, IsDelay mentions definitions delay
      ∧ [4, 1, 3, 0].Pairwise fun i k => delay i < delay k ∨ delay i = delay k ∧ i < k := by
  intro definitions
  have hdown : ∀ i ∈ viewPositions definitions, ∀ j ∈ viewPositions definitions, i ≠ j →
      refersAt mentions definitions.toArray i j = true →
        [4, 1, 3, 0].idxOf j < [4, 1, 3, 0].idxOf i := by decide +kernel
  have hacyclic : ∀ i, ¬Relation.TransGen (DependsOn mentions definitions) i i := by
    intro i hcircle
    obtain ⟨k, hfirst, -⟩ := Relation.TransGen.head'_iff.mp hcircle
    refine @not_reachesCircle_of_rank _ (IsViewAt definitions) [4, 1, 3, 0].idxOf
      (fun i j _ h => ⟨h.right, ?_⟩) i hfirst.left ⟨i, .refl, hcircle⟩
    exact hdown i (mem_viewPositions.mpr h.left) j (mem_viewPositions.mpr h.right) h.1
      ((dependsOn_iff h.left h.right h.1).mp h)
  have hfound : (positions mentions definitions).1 = [2] ++ [4, 1, 3, 0] := by decide +kernel
  obtain ⟨views, horder, -, -, ⟨delay, hdelay⟩, hsorted, -⟩ :=
    views_sorted_by_delay mentions definitions hacyclic
  have hviews : [4, 1, 3, 0] = views := by
    have hother : otherPositions definitions = [2] := by decide +kernel
    rw [hfound, hother] at horder
    exact List.append_cancel_left horder
  exact ⟨hacyclic, hfound, delay, hdelay, hviews ▸ hsorted delay hdelay⟩

end DatabaseDump.ViewOrder
