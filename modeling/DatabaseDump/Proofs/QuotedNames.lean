import DatabaseDump.Proofs.ViewOrder
import DatabaseDump.Sql.Statement

/-!
# Names between back-ticks

A view refers to another one by its name between back-ticks, but the order of views looks
for the bare name. So it finds every reference, and besides it takes each longer name for
a reference to the shorter one within it, a view's own name included.

Such a mention does no harm by itself: it only moves a view further back. But it may close
a circle, and then the views in the circle keep their catalog order, references or not.
`quoted_names_follow_unless_stuck` says exactly when a reference is respected, and
`longer_name_breaks_reference` is the smallest catalog in which one is not.
-/

namespace DatabaseDump.ViewOrder

variable {detector : Value → Value → Bool} {definitions : List Definition} {i j : Nat}

/-- Whether a creation statement mentions a name between back-ticks. -/
def mentionsQuoted : (creation name : Value) → Bool
  | .text creation, .text name => Text.contains creation (Sql.identifier name)
  | _, _ => false

theorem contains_of_contains_identifier {text name : String}
    (h : Text.contains text (Sql.identifier name) = true) : Text.contains text name = true := by
  rw [Text.contains, Text.occursIn_iff] at h ⊢
  have hname : name.toList <:+: (Sql.identifier name).toList := by
    rw [Sql.identifier, String.toList_append, String.toList_append]
    exact List.infix_append ..
  exact hname.trans h

/-- A name that is mentioned between back-ticks is mentioned. -/
theorem mentions_of_mentionsQuoted {creation name : Value}
    (h : mentionsQuoted creation name = true) : mentions creation name = true := by
  unfold mentionsQuoted at h
  split at h
  · exact contains_of_contains_identifier h
  · cases h

theorem DependsOn.mono {other : Value → Value → Bool}
    (hfinds : ∀ creation name, detector creation name = true → other creation name = true)
    (h : DependsOn detector definitions i j) : DependsOn other definitions i j := by
  obtain ⟨hne, view, sought, hview, hsought, his, his', hrefers⟩ := h
  exact ⟨hne, view, sought, hview, hsought, his, his', hfinds _ _ hrefers⟩

/-- A view that depends on a stuck one is stuck. -/
theorem DependsOn.isStuck (h : DependsOn detector definitions i j)
    (hj : IsStuck detector definitions j) : IsStuck detector definitions i := by
  obtain ⟨-, k, hreach, hcircle⟩ := hj
  exact ⟨h.left, k, hreach.head h, hcircle⟩

/--
**What a view depends on stands before it, unless it is stuck and comes later in the catalog.**
-/
theorem RespectsDependencies.idxOf_lt_iff {order : List Nat}
    (h : RespectsDependencies detector definitions order)
    (hdepends : DependsOn detector definitions i j) :
    order.idxOf j < order.idxOf i ↔ ¬IsStuck detector definitions j ∨ j < i := by
  by_cases hj : IsStuck detector definitions j
  · -- both are stuck, so the catalog decides
    have hi := hdepends.isStuck hj
    constructor
    · intro hbefore
      rcases Nat.lt_or_gt_of_ne hdepends.1 with hlt | hlt
      · exact absurd (h.stuck_in_order i j hi hj hlt) (by omega)
      · exact .inr hlt
    · rintro (hnot | hlt)
      · exact absurd hj hnot
      · exact h.stuck_in_order j i hj hi hlt
  · have hbefore : order.idxOf j < order.idxOf i := by
      by_cases hi : IsStuck detector definitions i
      · exact h.stuck_last i j hi hdepends.right hj
      · exact h.follows i j hdepends hi
    exact ⟨fun _ => .inl hj, fun _ => hbefore⟩

/--
**A view follows another one that it mentions between back-ticks, unless that one is stuck
and comes later in the catalog.**

Stuck are the views from which mentions lead to a circle, back-ticks or not. Where mentions
have no circles, every view follows all that it mentions between back-ticks.
-/
theorem quoted_names_follow_unless_stuck (definitions : List Definition) :
    let order := (positions mentions definitions).1
    order.Perm (List.range definitions.length)
    ∧ (pick definitions order).map some = order.map (fun i => definitions[i]?)
    ∧ (∀ i j, DependsOn mentionsQuoted definitions i j →
        (order.idxOf j < order.idxOf i ↔ ¬IsStuck mentions definitions j ∨ j < i))
    ∧ ((∀ i, ¬Relation.TransGen (DependsOn mentions definitions) i i) →
        ∀ i j, DependsOn mentionsQuoted definitions i j → order.idxOf j < order.idxOf i) := by
  intro order
  have hrespects := respectsDependencies_positions mentions definitions
  have hexact : ∀ i j, DependsOn mentionsQuoted definitions i j →
      (order.idxOf j < order.idxOf i ↔ ¬IsStuck mentions definitions j ∨ j < i) := by
    intro i j hquoted
    exact hrespects.idxOf_lt_iff (hquoted.mono fun _ _ => mentions_of_mentionsQuoted)
  refine ⟨hrespects.perm, ?_, hexact, ?_⟩
  · exact map_some_pick fun i hi => List.mem_range.mp (hrespects.perm.mem_iff.mp hi)
  · intro hacyclic i j hquoted
    refine (hexact i j hquoted).mpr (.inl ?_)
    rintro ⟨-, k, -, hcircle⟩
    exact hacyclic k hcircle

/--
The first view reads from the second one, whose own name holds the name of the first. This
closes a circle of mentions, although there is only one reference, and the first view stays
before the view that it reads from.
-/
theorem longer_name_breaks_reference :
    let definitions : List Definition :=
      [⟨⟨.text "v1", .text "v"⟩, .text "CREATE VIEW `v1` AS SELECT * FROM `v12`"⟩,
        ⟨⟨.text "v12", .text "v"⟩, .text "CREATE VIEW `v12` AS SELECT 1 AS x"⟩]
    let order := (positions mentions definitions).1
    (definitions.map fun definition => definition.table.name).Nodup
    ∧ (∀ i, ¬Relation.TransGen (DependsOn mentionsQuoted definitions) i i)
    ∧ DependsOn mentionsQuoted definitions 0 1
    ∧ order.idxOf 0 < order.idxOf 1 := by
  intro definitions order
  have hback :
      mentionsQuoted (.text "CREATE VIEW `v12` AS SELECT 1 AS x") (.text "v1") = false := by
    decide +kernel
  have honly : ∀ i j, DependsOn mentionsQuoted definitions i j → i = 0 ∧ j = 1 := by
    rintro i j ⟨hne, view, other, hview, hother, -, -, hrefers⟩
    have hi : i < 2 := (List.getElem?_eq_some_iff.mp hview).1
    have hj : j < 2 := (List.getElem?_eq_some_iff.mp hother).1
    rcases Nat.lt_or_gt_of_ne hne with hlt | hgt
    · omega
    · obtain ⟨rfl, rfl⟩ : i = 1 ∧ j = 0 := by omega
      cases hview
      cases hother
      rw [hback] at hrefers
      cases hrefers
  refine ⟨by decide, ?_, ⟨by decide, _, _, rfl, rfl, by decide, by decide, by decide +kernel⟩,
    by decide +kernel⟩
  -- a circle would have to leave the first view and come back to it
  intro i hcircle
  obtain ⟨k, hfirst, -⟩ := Relation.TransGen.head'_iff.mp hcircle
  obtain ⟨l, -, hlast⟩ := Relation.TransGen.tail'_iff.mp hcircle
  have hi : i = 0 := (honly i k hfirst).1
  have hi' : i = 1 := (honly l i hlast).2
  omega

end DatabaseDump.ViewOrder
