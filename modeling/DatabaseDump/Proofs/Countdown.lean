import DatabaseDump.ViewOrder.Countdown
import DatabaseDump.Proofs.ViewOrder

/-!
# Counting down finds the order

What the tables hold is determined by which views still wait: `waitingFor` writes them down. Each
of the two ways to go on from a view keeps that form, so a scan with tables places what a scan of
the waiting views places, and the scans end.

The views have two kinds of places, in the catalog and among the views alone. A scan looks only at
how places refer to each other, so it does not matter by which places it knows them.
-/

namespace DatabaseDump.ViewOrder

/-! ## Scans under other names -/

section Renaming

variable (refers : Nat → Nat → Bool) (rename : Nat → Nat)

/-- A scan does not look at the numbers of the views, only at which of them refer to which. -/
theorem scan_map (kept waiting : List Nat) :
    scan refers (kept.map rename) (waiting.map rename)
      = ((scan (fun i j => refers (rename i) (rename j)) kept waiting).1.map rename,
        (scan (fun i j => refers (rename i) (rename j)) kept waiting).2.map rename) := by
  induction waiting generalizing kept with
  | nil => rfl
  | cons i rest ih =>
    have hany : (kept.map rename ++ rest.map rename).any (refers (rename i))
        = (kept ++ rest).any fun j => refers (rename i) (rename j) := by
      rw [← List.map_append, List.any_map]
      rfl
    have hkept : kept.map rename ++ [rename i] = (kept ++ [i]).map rename := by simp
    rw [List.map_cons, scan, scan, hany]
    split
    · rw [hkept, ih]
    · rw [ih]
      rfl

/-- Nothing is placed any more. -/
theorem arrange_of_scan_nil {refers : Nat → Nat → Bool} {waiting stuck : List Nat}
    (h : scan refers [] waiting = ([], stuck)) : arrange refers waiting = ([], stuck) := by
  rw [arrange]
  split
  · rename_i heq
    exact heq.symm.trans h
  · rename_i heq
    cases heq.symm.trans h

/-- What a scan places comes before all that is placed by later ones. -/
theorem arrange_of_scan_cons {refers : Nat → Nat → Bool} {waiting placed rest : List Nat}
    {i : Nat} (h : scan refers [] waiting = (i :: placed, rest)) :
    arrange refers waiting
      = (i :: placed ++ (arrange refers rest).1, (arrange refers rest).2) := by
  rw [arrange]
  split
  · rename_i heq
    cases heq.symm.trans h
  · rename_i heq
    cases heq.symm.trans h
    rfl

/-- Neither do all scans together. -/
theorem arrange_map (waiting : List Nat) :
    arrange refers (waiting.map rename)
      = ((arrange (fun i j => refers (rename i) (rename j)) waiting).1.map rename,
        (arrange (fun i j => refers (rename i) (rename j)) waiting).2.map rename) := by
  fun_induction arrange (fun i j => refers (rename i) (rename j)) waiting with
  | case1 waiting stuck hscan =>
    have hmap := scan_map refers rename [] waiting
    rw [hscan] at hmap
    exact arrange_of_scan_nil hmap
  | case2 waiting i placed rest hscan later stuck hlater ih =>
    have hmap := scan_map refers rename [] waiting
    rw [hscan] at hmap
    rw [arrange_of_scan_cons hmap, ih, hlater]
    simp

end Renaming

/-! ## What the tables hold -/

namespace Countdown

variable {refers : Nat → Nat → Bool} {count : Nat}

/-- The tables when some views wait and the others are placed in some order. -/
def waitingFor (refers : Nat → Nat → Bool) (count : Nat) (waiting ordered : List Nat)
    (placed : Bool) (warned : List (List Nat)) : Countdown :=
  { awaited := (List.range count).map fun i =>
      (waiting.countP (refersElsewhere refers i) : Nat)
    dependents := (initial refers count).dependents
    visited := (List.range count).map fun i => decide (i ∉ waiting)
    ordered, placed, warned }

/-- In the beginning all views wait, and nothing has been ordered. -/
theorem initial_eq (refers : Nat → Nat → Bool) (count : Nat) :
    initial refers count = waitingFor refers count (List.range count) [] false [] := by
  have hvisited : (List.range count).map (fun _ => false)
      = (List.range count).map fun i => decide (i ∉ List.range count) :=
    List.map_congr_left fun i hi => by simpa using hi
  rw [waitingFor, ← hvisited]
  rfl

/-- Counting down for some views takes one off their numbers. -/
theorem getElem?_foldl_modify {views : List Nat} (h : views.Nodup) (numbers : List Int)
    (k : Nat) :
    (views.foldl (fun numbers i => numbers.modify i fun number => number - 1) numbers)[k]?
      = numbers[k]?.map fun number => if k ∈ views then number - 1 else number := by
  induction views generalizing numbers with
  | nil => simp
  | cons i views ih =>
    obtain ⟨hi, hviews⟩ := List.nodup_cons.mp h
    rw [List.foldl_cons, ih hviews, List.getElem?_modify, Option.map_eq_map, Option.map_map]
    congr 1
    funext number
    by_cases hk : i = k
    · subst hk
      simp [hi]
    · have hk' : k ≠ i := fun heq => hk heq.symm
      simp [hk, hk']

variable {kept rest ordered : List Nat} {placed : Bool} {warned : List (List Nat)} {i : Nat}

theorem getElem?_awaited {waiting : List Nat} (hi : i < count) :
    (waitingFor refers count waiting ordered placed warned).awaited[i]?
      = some (waiting.countP (refersElsewhere refers i) : Int) := by
  simp [waitingFor, hi]

theorem getElem?_visited {waiting : List Nat} (hi : i < count) :
    (waitingFor refers count waiting ordered placed warned).visited[i]?
      = some (decide (i ∉ waiting)) := by
  simp [waitingFor, hi]

/-- No view is placed twice. -/
theorem isDue_of_not_mem {waiting : List Nat} (hi : i < count) (hmem : i ∉ waiting) :
    (waitingFor refers count waiting ordered placed warned).isDue i = false := by
  simp [isDue, getElem?_visited hi, hmem]

/-- A view is due when none of the others that wait is referred to by it. -/
theorem isDue_of_mem (hi : i < count) (hnot : i ∉ kept ++ rest) :
    (waitingFor refers count (kept ++ i :: rest) ordered placed warned).isDue i
      = !(kept ++ rest).any (refers i) := by
  -- a view may mention itself, which it does not wait for
  have hself : refersElsewhere refers i i = false := by simp [refersElsewhere]
  have hcount : (kept ++ i :: rest).countP (refersElsewhere refers i)
      = (kept ++ rest).countP (refers i) := by
    have hsame : (kept ++ rest).countP (refersElsewhere refers i)
        = (kept ++ rest).countP (refers i) := by
      refine List.countP_congr fun j hj => ?_
      have hne : i ≠ j := fun heq => hnot (heq ▸ hj)
      simp [refersElsewhere, hne]
    rw [← hsame, List.countP_append, List.countP_append, List.countP_cons, hself]
    simp
  have hmem : i ∈ kept ++ i :: rest := by simp
  rw [isDue, getElem?_visited hi, getElem?_awaited hi, hcount]
  generalize kept ++ rest = others
  have hzero : others.countP (refers i) = 0 ↔ others.any (refers i) = false := by
    rw [List.countP_eq_zero, List.any_eq_false]
  cases hany : others.any (refers i) with
  | true =>
    have hpos : others.countP (refers i) ≠ 0 := fun h => by
      rw [hzero.mp h] at hany
      cases hany
    simp [hmem, hpos]
  | false => simp [hmem, hzero.mpr hany]

/-- The views that are counted down for a view are the others that refer to it. -/
theorem getD_dependents (hi : i < count) :
    (initial refers count).dependents.getD i []
      = (List.range count).filter fun k => refersElsewhere refers k i := by
  simp [initial, hi]

/-- Counting down for a view leaves the numbers of those that wait for the others. -/
theorem foldl_dependents (hi : i < count) :
    ((initial refers count).dependents.getD i []).foldl
        (fun awaited k => awaited.modify k fun number => number - 1)
        ((List.range count).map fun k =>
          ((kept ++ i :: rest).countP (refersElsewhere refers k) : Int))
      = (List.range count).map fun k =>
          ((kept ++ rest).countP (refersElsewhere refers k) : Int) := by
  have hnodup : ((List.range count).filter fun k => refersElsewhere refers k i).Nodup :=
    List.nodup_range.filter _
  refine List.ext_getElem? fun k => ?_
  rw [getD_dependents hi, getElem?_foldl_modify hnodup]
  by_cases hk : k < count
  · simp only [List.getElem?_map, List.getElem?_range hk, Option.map_some, List.mem_filter,
      List.mem_range, hk, true_and, List.countP_append, List.countP_cons]
    split
    · push_cast
      congr 1
      omega
    · simp
  · simp [hk]

theorem set_visited (hi : i < count) (hnot : i ∉ kept ++ rest) :
    ((List.range count).map fun k => decide (k ∉ kept ++ i :: rest)).set i true
      = (List.range count).map fun k => decide (k ∉ kept ++ rest) := by
  refine List.ext_getElem? fun k => ?_
  rw [List.getElem?_set]
  by_cases hk : i = k
  · subst hk
    simpa [hi] using hnot
  · by_cases hlt : k < count
    · have hk' : k ≠ i := fun heq => hk heq.symm
      simp [hk, hk', hlt]
    · simp [hk, hlt]

/-- Placing a view leaves the tables of those that still wait. -/
theorem visit_waitingFor (hi : i < count) (hnot : i ∉ kept ++ rest) :
    (waitingFor refers count (kept ++ i :: rest) ordered placed warned).visit i
      = waitingFor refers count (kept ++ rest) (ordered ++ [i]) true warned := by
  simp only [visit, waitingFor, foldl_dependents hi, set_visited hi hnot]

/-- Neither those that were kept before nor those after a view are the view itself. -/
theorem not_mem_of_passed {views : List Nat} (hsub : rest.Sublist views)
    (hviews : (i :: views).Nodup) (hkept : ∀ k ∈ kept, k ∉ i :: views) : i ∉ kept ++ rest := by
  intro hmem
  rcases List.mem_append.mp hmem with hmem | hmem
  · exact hkept i hmem List.mem_cons_self
  · exact (List.nodup_cons.mp hviews).1 (hsub.subset hmem)

/-- **A pass over views places what a scan of those that wait places.** -/
theorem pass_waitingFor {views : List Nat} (hsub : rest.Sublist views) (hviews : views.Nodup)
    (hlt : ∀ i ∈ views, i < count) (hkept : ∀ i ∈ kept, i ∉ views) :
    pass views (waitingFor refers count (kept ++ rest) ordered placed warned)
      = waitingFor refers count (scan refers kept rest).2
          (ordered ++ (scan refers kept rest).1) (placed || !(scan refers kept rest).1.isEmpty)
          warned := by
  induction hsub generalizing kept ordered placed with
  | slnil => simp [pass, scan]
  | @cons rest views i hsub ih =>
    -- the view was placed before
    obtain ⟨hcount, hlt⟩ := List.forall_mem_cons.mp hlt
    have hkept' : ∀ k ∈ kept, k ∉ views := fun k hk hmem =>
      hkept k hk (List.mem_cons_of_mem _ hmem)
    have hnot : i ∉ kept ++ rest := not_mem_of_passed hsub hviews hkept
    have hdue : (waitingFor refers count (kept ++ rest) ordered placed warned).isDue i = false :=
      isDue_of_not_mem hcount hnot
    rw [pass_cons, hdue]
    exact ih hviews.of_cons hlt hkept'
  | @cons_cons rest views i hsub ih =>
    obtain ⟨hcount, hlt⟩ := List.forall_mem_cons.mp hlt
    have hkept' : ∀ k ∈ kept, k ∉ views := fun k hk hmem =>
      hkept k hk (List.mem_cons_of_mem _ hmem)
    have hnot : i ∉ kept ++ rest := not_mem_of_passed hsub hviews hkept
    rw [pass_cons, isDue_of_mem hcount hnot, scan]
    cases hany : (kept ++ rest).any (refers i) with
    | true =>
      have hkeeps : ∀ k ∈ kept ++ [i], k ∉ views := by
        intro k hk
        rcases List.mem_append.mp hk with hk | hk
        · exact hkept' k hk
        · rw [List.mem_singleton.mp hk]
          exact (List.nodup_cons.mp hviews).1
      have hnext := @ih (kept ++ [i]) ordered placed hviews.of_cons hlt hkeeps
      rw [List.append_assoc, List.singleton_append] at hnext
      exact hnext
    | false =>
      have hnext := @ih kept (ordered ++ [i]) true hviews.of_cons hlt hkept'
      rw [List.append_assoc, List.singleton_append] at hnext
      simp only [Bool.not_false, if_true, visit_waitingFor hcount hnot]
      simpa using hnext

/-! ## The scans come to an end -/

variable {waiting : List Nat}

theorem filter_mem_of_sublist {views : List Nat} (hsub : waiting.Sublist views)
    (hviews : views.Nodup) : (views.filter fun i => decide (i ∈ waiting)) = waiting := by
  have hself : (waiting.filter fun i => decide (i ∈ waiting)) = waiting :=
    List.filter_eq_self.mpr fun i hi => by simpa using hi
  have hperm : waiting.Perm (views.filter fun i => decide (i ∈ waiting)) := by
    refine (List.perm_ext_iff_of_nodup (hviews.sublist hsub) (hviews.filter _)).mpr fun i => ?_
    rw [List.mem_filter, decide_eq_true_eq]
    exact ⟨fun hi => ⟨hsub.subset hi, hi⟩, fun hi => hi.2⟩
  have hfilter := hsub.filter fun i => decide (i ∈ waiting)
  rw [hself] at hfilter
  exact (hfilter.eq_of_length hperm.length_eq).symm

/-- What is left are the views that wait. -/
theorem left_waitingFor (hsub : waiting.Sublist (List.range count)) :
    (waitingFor refers count waiting ordered placed warned).left count = waiting := by
  have hleft : (List.range count).filter (fun i =>
        (waitingFor refers count waiting ordered placed warned).visited[i]? == some false)
      = (List.range count).filter fun i => decide (i ∈ waiting) := by
    refine List.filter_congr fun i hi => ?_
    rw [getElem?_visited (List.mem_range.mp hi)]
    by_cases hmem : i ∈ waiting
    · simp [hmem]
    · simp [hmem]
  rw [left, hleft, filter_mem_of_sublist hsub List.nodup_range]

/-- **A pass over all views in the table does what a scan of those that wait does.** -/
theorem pass_range_waitingFor (hsub : waiting.Sublist (List.range count)) :
    pass (List.range count)
        { waitingFor refers count waiting ordered placed warned with placed := false }
      = waitingFor refers count (scan refers [] waiting).2 (ordered ++ (scan refers [] waiting).1)
          (!(scan refers [] waiting).1.isEmpty) warned := by
  have hpass : pass (List.range count)
        (waitingFor refers count ([] ++ waiting) ordered false warned)
      = waitingFor refers count (scan refers [] waiting).2 (ordered ++ (scan refers [] waiting).1)
          (false || !(scan refers [] waiting).1.isEmpty) warned :=
    pass_waitingFor hsub List.nodup_range (fun i hi => List.mem_range.mp hi) (by simp)
  rw [Bool.false_or] at hpass
  exact hpass

theorem sublist_of_scan {placedNow rest : List Nat} (hsub : waiting.Sublist (List.range count))
    (hscan : scan refers [] waiting = (placedNow, rest)) : rest.Sublist (List.range count) := by
  have hrest := scan_sublist refers [] waiting
  rw [hscan] at hrest
  exact hrest.trans hsub

theorem length_of_scan {placedNow rest : List Nat}
    (hscan : scan refers [] waiting = (placedNow, rest)) :
    placedNow.length + rest.length = waiting.length := by
  have hlength := length_scan refers [] waiting
  rw [hscan, List.length_nil, Nat.zero_add] at hlength
  exact hlength

/-! A scan that places a view goes on; one that places none gives a warning and ends. -/

theorem scanned_of_placed {rest placedNow : List Nat}
    (hsub : waiting.Sublist (List.range count))
    (hscan : scan refers [] waiting = (i :: placedNow, rest)) :
    (waitingFor refers count waiting ordered placed warned).scanned count
      = waitingFor refers count rest (ordered ++ i :: placedNow) true warned := by
  rw [scanned, pass_range_waitingFor hsub, hscan]
  rfl

theorem scanned_of_blocked {stuck : List Nat} (hsub : waiting.Sublist (List.range count))
    (hscan : scan refers [] waiting = ([], stuck)) :
    (waitingFor refers count waiting ordered placed warned).scanned count
      = waitingFor refers count stuck (ordered ++ stuck) false (warned ++ [stuck]) := by
  rw [scanned, pass_range_waitingFor hsub, hscan]
  dsimp only
  rw [List.append_nil, left_waitingFor (sublist_of_scan hsub hscan)]
  rfl

/--
**The scans end, and with them all views are in order.**

Every scan but the last one places a view, so there are not more scans than views.
-/
theorem exists_runs (hsub : waiting.Sublist (List.range count))
    (hlength : ordered.length + waiting.length = count) :
    ∃ scans last, Runs count (waitingFor refers count waiting ordered placed warned) scans last
      ∧ scans ≤ waiting.length
      ∧ last.ordered = ordered ++ ((arrange refers waiting).1 ++ (arrange refers waiting).2)
      ∧ last.warned = warned
        ++ if (arrange refers waiting).2 = [] then [] else [(arrange refers waiting).2] := by
  fun_induction arrange refers waiting generalizing ordered placed warned with
  | case1 waiting stuck hscan =>
    have hstuck : stuck.length = waiting.length := by simpa using length_of_scan hscan
    cases waiting with
    | nil =>
      obtain rfl : stuck = [] := List.length_eq_zero_iff.mp hstuck
      refine ⟨0, _, .done (Nat.le_of_eq hlength.symm), Nat.le_refl _, ?_, ?_⟩
      · exact (List.append_nil _).symm
      · exact (List.append_nil _).symm
    | cons k waiting =>
      -- the one scan that places nothing
      have hne : stuck ≠ [] := by
        rintro rfl
        cases hstuck
      have hopen : ordered.length < count := by
        rw [← hlength, List.length_cons]
        omega
      refine ⟨1, waitingFor refers count stuck (ordered ++ stuck) false (warned ++ [stuck]),
        .scan hopen ?_, Nat.succ_le_of_lt (Nat.succ_pos _), rfl, ?_⟩
      · rw [scanned_of_blocked hsub hscan]
        refine .done ?_
        show count ≤ (ordered ++ stuck).length
        rw [List.length_append]
        omega
      · rw [if_neg hne]
        rfl
  | case2 waiting i placedNow rest hscan later stuck hlater ih =>
    have hplaced : (i :: placedNow).length + rest.length = waiting.length :=
      length_of_scan hscan
    rw [List.length_cons] at hplaced
    have hopen : ordered.length < count := by omega
    have hnext : (ordered ++ i :: placedNow).length + rest.length = count := by
      rw [List.length_append, List.length_cons]
      omega
    obtain ⟨scans, last, hruns, hscans, hordered, hwarned⟩ :=
      @ih (ordered ++ i :: placedNow) true warned (sublist_of_scan hsub hscan) hnext
    refine ⟨scans + 1, last, .scan hopen ?_, by omega, ?_, ?_⟩
    · rw [scanned_of_placed hsub hscan]
      exact hruns
    · rw [hordered, hlater]
      simp
    · rw [hwarned, hlater]

end Countdown

/-! ## Places among the views -/

variable {definitions : List Definition} {order : List Nat}

/-- What is picked at some place of an order is the definition at that position. -/
theorem getElem?_pick (h : ∀ i ∈ order, i < definitions.length) (k : Nat) :
    (pick definitions order)[k]? = definitions[order.getD k definitions.length]? := by
  have hmap := congrArg (fun list => list[k]?) (map_some_pick h)
  simp only [List.getElem?_map] at hmap
  cases hk : order[k]? with
  | none =>
    rw [hk, Option.map_none, Option.map_eq_none_iff] at hmap
    rw [List.getD_eq_getElem?_getD, hk, hmap]
    simp
  | some i =>
    have hi := List.getElem?_eq_getElem (h i (List.mem_of_getElem? hk))
    rw [hk, Option.map_some, hi] at hmap
    rw [List.getD_eq_getElem?_getD, hk, Option.getD_some, hi]
    obtain ⟨picked, hpicked, hsame⟩ := Option.map_eq_some_iff.mp hmap
    exact hpicked.trans hsame

theorem length_pick (h : ∀ i ∈ order, i < definitions.length) :
    (pick definitions order).length = order.length := by
  have hmap := congrArg List.length (map_some_pick h)
  rwa [List.length_map, List.length_map] at hmap

theorem map_getD_range (order : List Nat) (default : Nat) :
    (List.range order.length).map (fun k => order.getD k default) = order := by
  refine List.ext_getElem (by simp) fun k hk _ => ?_
  rw [List.length_map, List.length_range] at hk
  simp [hk]

/-- Picked views refer to each other as they do where they come from. -/
theorem refersAt_pick (detector : Value → Value → Bool)
    (h : ∀ i ∈ order, i < definitions.length) :
    refersAt detector (pick definitions order).toArray = fun k l =>
      refersAt detector definitions.toArray (order.getD k definitions.length)
        (order.getD l definitions.length) := by
  funext k l
  simp only [refersAt, List.getElem?_toArray, getElem?_pick h]

/-- **Views are arranged by their places in a list as by their positions in the catalog.** -/
theorem arrange_eq_map_pick (detector : Value → Value → Bool)
    (h : ∀ i ∈ order, i < definitions.length) :
    let arranged := arrange (refersAt detector (pick definitions order).toArray)
      (List.range order.length)
    arrange (refersAt detector definitions.toArray) order
      = (arranged.1.map fun k => order.getD k definitions.length,
        arranged.2.map fun k => order.getD k definitions.length) := by
  intro arranged
  have hmap := arrange_map (refersAt detector definitions.toArray)
    (fun k => order.getD k definitions.length) (List.range order.length)
  rw [map_getD_range, ← refersAt_pick detector h] at hmap
  exact hmap

theorem lt_length_of_mem_viewPositions {i : Nat} (hi : i ∈ viewPositions definitions) :
    i < definitions.length :=
  List.mem_range.mp (List.mem_filter.mp hi).1

/-- Places in a picked list are positions in the list that it was picked from. -/
theorem pick_map_getD (h : ∀ i ∈ order, i < definitions.length) (places : List Nat) :
    pick definitions (places.map fun k => order.getD k definitions.length)
      = pick (pick definitions order) places := by
  rw [pick, List.filterMap_map]
  exact List.filterMap_congr fun k _ => (getElem?_pick h k).symm

/--
**The order of definitions loses nothing, and the scans that find it end.**

The order has every position once: the tables that are no views in the order of the catalog, then
the views. Their order is that which the scans with tables come to, whatever the views refer to,
and there are not more scans than views. If a scan places nothing, one warning names the views
that are left.
-/
theorem positions_lose_nothing (detector : Value → Value → Bool) (definitions : List Definition) :
    let views := definitions.filter (·.table.isView)
    let place k := (viewPositions definitions).getD k definitions.length
    let order := (positions detector definitions).1
    let stuck := (positions detector definitions).2
    order.Perm (List.range definitions.length)
    ∧ ∃ (scans : Nat) (last : Countdown),
      Countdown.Runs views.length
        (Countdown.initial (refersAt detector views.toArray) views.length) scans last
      ∧ scans ≤ views.length
      ∧ last.ordered.Perm (List.range views.length)
      ∧ order = otherPositions definitions ++ last.ordered.map place
      ∧ (last.ordered.map place).Perm (viewPositions definitions)
      ∧ pick definitions order
        = (definitions.filter fun definition => !definition.table.isView)
          ++ pick views last.ordered
      ∧ last.warned.map (List.map place) = if stuck = [] then [] else [stuck] := by
  intro views place order stuck
  have hlt : ∀ i ∈ viewPositions definitions, i < definitions.length :=
    fun i hi => lt_length_of_mem_viewPositions hi
  have hviews : pick definitions (viewPositions definitions) = views :=
    pick_viewPositions definitions
  have hcount : (viewPositions definitions).length = views.length := by
    rw [← hviews, length_pick hlt]
  obtain ⟨scans, last, hruns, hscans, hordered, hwarned⟩ :=
    @Countdown.exists_runs (refersAt detector views.toArray) views.length [] false []
      (List.range views.length) (List.Sublist.refl _) (by simp)
  rw [← Countdown.initial_eq] at hruns
  rw [List.length_range] at hscans
  rw [List.nil_append] at hordered hwarned
  -- the scans work on places among the views, and the order is told in positions of the catalog
  have harranged := arrange_eq_map_pick detector hlt
  rw [hviews, hcount] at harranged
  have hplaced : placedViews detector definitions ++ stuckViews detector definitions
      = last.ordered.map place := by
    rw [placedViews, stuckViews, harranged, hordered, List.map_append]
  have hstuck : stuck = (arrange (refersAt detector views.toArray)
      (List.range views.length)).2.map place := congrArg Prod.snd harranged
  have horder : order = otherPositions definitions ++ last.ordered.map place := by
    rw [← hplaced, ← List.append_assoc]
    rfl
  refine ⟨positions_perm detector definitions, scans, last, hruns, hscans, ?_, horder, ?_, ?_, ?_⟩
  · rw [hordered]
    exact arrange_perm _ _
  · rw [← hplaced]
    exact views_perm detector definitions
  · rw [pick_positions, hplaced, pick_map_getD hlt, hviews]
  · rw [hwarned, hstuck]
    by_cases hnone : (arrange (refersAt detector views.toArray) (List.range views.length)).2 = []
    · simp [hnone]
    · simp [hnone]

end DatabaseDump.ViewOrder
