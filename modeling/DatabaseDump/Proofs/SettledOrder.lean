import DatabaseDump.Proofs.Countdown

/-!
# An order that was found is found again

Definitions that are in the order of their creation stay where they are when they are put into
order once more. The views have other places by then, so the tables are new and the scans take
another way. But nothing that was placed refers to what comes after it: the first scan places it
all, in the order in which it stands. And the views that were stuck refer to each other as before,
so no scan places one of them.
-/

namespace DatabaseDump.ViewOrder

/-! ## Scanning what is settled -/

section

variable {refers : Nat → Nat → Bool} {placed stuck : List Nat}

/-- When everything refers to something else that waits, nothing is placed. -/
theorem scan_of_blocked (kept waiting : List Nat)
    (h : ∀ i ∈ waiting, ∃ k ∈ kept ++ waiting, i ≠ k ∧ refers i k = true) :
    scan refers kept waiting = ([], kept ++ waiting) := by
  induction waiting generalizing kept with
  | nil => simp [scan]
  | cons i rest ih =>
    obtain ⟨k, hk, hne, hrefers⟩ := h i List.mem_cons_self
    have hothers : k ∈ kept ++ rest := by
      rcases List.mem_append.mp hk with hk | hk
      · exact List.mem_append_left _ hk
      · exact List.mem_append_right _ ((List.mem_cons.mp hk).resolve_left hne.symm)
    have hany : (kept ++ rest).any (refers i) = true := List.any_eq_true.mpr ⟨k, hothers, hrefers⟩
    have hsame : kept ++ [i] ++ rest = kept ++ i :: rest := by simp
    rw [scan, if_pos hany, ih (kept ++ [i]), hsame]
    intro j hj
    rw [hsame]
    exact h j (List.mem_cons_of_mem _ hj)

/-- What is settled is placed in the order in which it stands. -/
theorem scan_of_settled (h : Settled refers placed stuck) :
    scan refers [] (placed ++ stuck)
      = (placed ++ (scan refers [] stuck).1, (scan refers [] stuck).2) := by
  induction placed with
  | nil => rfl
  | cons i placed ih =>
    obtain ⟨hfirst, hlater⟩ := List.pairwise_cons.mp h.later
    obtain ⟨hstuck, hapart⟩ := List.forall_mem_cons.mp h.apart
    have hnone : (placed ++ stuck).any (refers i) = false := by
      refine List.any_eq_false.mpr fun k hk => ?_
      rcases List.mem_append.mp hk with hk | hk
      · simp [hfirst k hk]
      · simp [hstuck k hk]
    rw [List.cons_append, scan, List.nil_append, hnone, if_neg Bool.false_ne_true,
      ih ⟨hlater, hapart⟩]
    rfl

/-- **A settled order in front of views in circles is found again as it stands.** -/
theorem arrange_of_settled (h : Settled refers placed stuck)
    (hblocked : ∀ i ∈ stuck, ∃ k ∈ stuck, i ≠ k ∧ refers i k = true) :
    arrange refers (placed ++ stuck) = (placed, stuck) := by
  have hnone : scan refers [] stuck = ([], stuck) := scan_of_blocked [] stuck hblocked
  have hscan := scan_of_settled h
  rw [hnone, List.append_nil] at hscan
  cases placed with
  | nil => exact arrange_of_scan_nil hscan
  | cons i placed =>
    rw [arrange_of_scan_cons hscan, arrange_of_scan_nil hnone, List.append_nil]

theorem Settled.of_map {rename : Nat → Nat}
    (h : Settled refers (placed.map rename) (stuck.map rename)) :
    Settled (fun k l => refers (rename k) (rename l)) placed stuck where
  later := List.pairwise_map.mp h.later
  apart := fun _ hi _ hk => h.apart _ (List.mem_map_of_mem hi) _ (List.mem_map_of_mem hk)

end

/-! ## Definitions in order -/

variable {definitions : List Definition}

/-- Where the tables stand in front of the views, positions are in order. -/
theorem otherPositions_append_viewPositions {tables views : List Definition}
    (htables : ∀ table ∈ tables, table.table.isView = false)
    (hviews : ∀ view ∈ views, view.table.isView = true) :
    otherPositions (tables ++ views) ++ viewPositions (tables ++ views)
      = List.range (tables ++ views).length := by
  have htable : ∀ i ∈ List.range tables.length,
      (tables ++ views)[i]?.any (·.table.isView) = false := by
    intro i hi
    rw [List.getElem?_append_left (List.mem_range.mp hi),
      List.getElem?_eq_getElem (List.mem_range.mp hi), Option.any_some]
    exact htables _ (List.getElem_mem _)
  have hview : ∀ i ∈ (List.range views.length).map fun k => tables.length + k,
      (tables ++ views)[i]?.any (·.table.isView) = true := by
    intro i hi
    obtain ⟨k, hk, rfl⟩ := List.mem_map.mp hi
    rw [List.getElem?_append_right (Nat.le_add_right _ _), Nat.add_sub_cancel_left,
      List.getElem?_eq_getElem (List.mem_range.mp hk), Option.any_some]
    exact hviews _ (List.getElem_mem _)
  rw [otherPositions, viewPositions, List.length_append, List.range_add, List.filter_append,
    List.filter_append, List.filter_eq_self.mpr (by simpa using htable),
    List.filter_eq_nil_iff.mpr (by simpa using hview),
    List.filter_eq_nil_iff.mpr (by simpa using htable), List.filter_eq_self.mpr hview]
  simp

/-- The views in the order that was found for them. -/
def orderedViews (detector : Value → Value → Bool) (definitions : List Definition) :
    List Definition :=
  pick definitions (placedViews detector definitions ++ stuckViews detector definitions)

theorem isViewAt_of_mem_views {detector : Value → Value → Bool} {i : Nat}
    (hi : i ∈ placedViews detector definitions ++ stuckViews detector definitions) :
    IsViewAt definitions i :=
  mem_viewPositions.mp ((views_perm detector definitions).mem_iff.mp hi)

theorem isView_of_mem_orderedViews {detector : Value → Value → Bool} :
    ∀ view ∈ orderedViews detector definitions, view.table.isView = true := by
  intro view hmem
  obtain ⟨i, hi, hview⟩ := List.mem_filterMap.mp hmem
  obtain ⟨other, hother, his⟩ := isViewAt_of_mem_views hi
  cases hview.symm.trans hother
  exact his

/-- The views in order are arranged as they stand. -/
theorem arrange_orderedViews (detector : Value → Value → Bool) (definitions : List Definition) :
    let views := orderedViews detector definitions
    let arranged := arrange (refersAt detector views.toArray) (List.range views.length)
    arranged.1 ++ arranged.2 = List.range views.length := by
  intro views arranged
  have hlt : ∀ i ∈ placedViews detector definitions ++ stuckViews detector definitions,
      i < definitions.length := by
    intro i hi
    exact lt_length_of_mem_viewPositions (mem_viewPositions.mpr (isViewAt_of_mem_views hi))
  have hlength : views.length
      = (placedViews detector definitions ++ stuckViews detector definitions).length :=
    length_pick hlt
  let rename k :=
    (placedViews detector definitions ++ stuckViews detector definitions).getD k definitions.length
  -- the places of the views that were placed, and of those that were stuck
  obtain ⟨placed, stuck, hrange, hplaced, hstuck⟩ :
      ∃ placed stuck, List.range views.length = placed ++ stuck
        ∧ placed.map rename = placedViews detector definitions
        ∧ stuck.map rename = stuckViews detector definitions := by
    rw [hlength]
    exact List.map_eq_append_iff.mp (map_getD_range _ _)
  have hsettled : Settled (refersAt detector definitions.toArray) (placed.map rename)
      (stuck.map rename) := by
    rw [hplaced, hstuck]
    exact views_settled detector definitions
  have hblocked : ∀ i ∈ stuck, ∃ k ∈ stuck,
      i ≠ k ∧ refersAt detector definitions.toArray (rename i) (rename k) = true := by
    intro i hi
    have hmem : rename i ∈ stuckViews detector definitions := hstuck ▸ List.mem_map_of_mem hi
    obtain ⟨l, hl, hne, hrefers⟩ := views_blocked detector definitions (rename i) hmem
    rw [← hstuck] at hl
    obtain ⟨k, hk, rfl⟩ := List.mem_map.mp hl
    exact ⟨k, hk, fun heq => hne (congrArg rename heq), hrefers⟩
  have harranged : arranged = (placed, stuck) := by
    show arrange (refersAt detector (pick definitions _).toArray) (List.range views.length) = _
    rw [hrange, refersAt_pick detector hlt]
    exact arrange_of_settled hsettled.of_map hblocked
  rw [harranged, hrange]

/-- **What was put into order stays where it is when it is put into order again.** -/
theorem ordered_definitions_stay (detector : Value → Value → Bool)
    (definitions : List Definition) :
    let ordered := pick definitions (positions detector definitions).1
    (positions detector ordered).1 = List.range ordered.length
    ∧ pick ordered (positions detector ordered).1 = ordered := by
  intro ordered
  have hordered : ordered = (definitions.filter fun definition => !definition.table.isView)
      ++ orderedViews detector definitions := pick_positions detector definitions
  have htables : ∀ table ∈ definitions.filter (fun definition => !definition.table.isView),
      table.table.isView = false := by
    intro table htable
    simpa using (List.mem_filter.mp htable).2
  have hviews : pick ordered (viewPositions ordered) = orderedViews detector definitions := by
    rw [pick_viewPositions, hordered, List.filter_append,
      List.filter_eq_nil_iff.mpr fun table htable => by simp [htables table htable],
      List.filter_eq_self.mpr isView_of_mem_orderedViews, List.nil_append]
  have hlt : ∀ i ∈ viewPositions ordered, i < ordered.length :=
    fun i hi => lt_length_of_mem_viewPositions hi
  have hcount : (viewPositions ordered).length = (orderedViews detector definitions).length := by
    rw [← hviews, length_pick hlt]
  have hfound : placedViews detector ordered ++ stuckViews detector ordered
      = viewPositions ordered := by
    have harranged := arrange_eq_map_pick detector hlt
    rw [hviews, hcount] at harranged
    rw [placedViews, stuckViews, harranged, ← List.map_append, arrange_orderedViews, ← hcount,
      map_getD_range]
  have hrange : (positions detector ordered).1 = List.range ordered.length := by
    rw [positions_eq, List.append_assoc, hfound, hordered]
    exact otherPositions_append_viewPositions htables isView_of_mem_orderedViews
  refine ⟨hrange, ?_⟩
  rw [hrange]
  refine List.map_injective_iff.mpr (Option.some_injective _) ?_
  rw [map_some_pick fun i hi => List.mem_range.mp hi, map_getElem?_range]

end DatabaseDump.ViewOrder
