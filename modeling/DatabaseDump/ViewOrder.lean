import DatabaseDump.Log
import DatabaseDump.Table
import DatabaseDump.Value.Search

/-!
# The order of views

A view can be created only after the views that it refers to. The tables that are no
views come first, in catalog order; then the views are scanned again and again in
catalog order, and in each scan a view is placed when none of those that it refers to
is still waiting. When a scan places no view, the ones that are left refer to each
other in a circle, or to such a circle; they keep their catalog order.
-/

namespace DatabaseDump.ViewOrder

/--
Scans the waiting positions once. `kept` are those passed over before in this scan.
The answer is what was placed and what is still waiting.
-/
def scan (refers : Nat → Nat → Bool) (kept : List Nat) : List Nat → List Nat × List Nat
  | [] => ([], kept)
  | i :: rest =>
    if (kept ++ rest).any (refers i) then scan refers (kept ++ [i]) rest
    else
      let (placed, waiting) := scan refers kept rest
      (i :: placed, waiting)

theorem length_scan (refers : Nat → Nat → Bool) (kept waiting : List Nat) :
    (scan refers kept waiting).1.length + (scan refers kept waiting).2.length
      = kept.length + waiting.length := by
  induction waiting generalizing kept with
  | nil => simp [scan]
  | cons i rest ih =>
    simp only [scan]
    split
    · rw [ih]; simp; omega
    · simp only [List.length_cons]
      have := ih kept
      omega

/-- Scans until nothing more is placed: the placed positions in order, and the stuck ones. -/
def arrange (refers : Nat → Nat → Bool) (waiting : List Nat) : List Nat × List Nat :=
  match _ : scan refers [] waiting with
  | ([], stuck) => ([], stuck)
  | (i :: placed, rest) =>
    let (later, stuck) := arrange refers rest
    (i :: placed ++ later, stuck)
termination_by waiting.length
decreasing_by
  have := length_scan refers [] waiting
  simp_all
  omega

/--
Whether a creation statement mentions a name anywhere, be it as a part of another
name. An answer that is no text is searched for the name as one of its items.
-/
def mentions (creation name : Value) : Bool := creation.holds name

/-- Whether one of the views refers to another one, by their positions. -/
def refersAt (detector : Value → Value → Bool) (views : Array Definition) (i j : Nat) : Bool :=
  match views[i]?, views[j]? with
  | some view, some other => detector view.creation other.table.name
  | _, _ => false

/-- Where the views stand in a list of definitions. -/
def viewPositions (definitions : List Definition) : List Nat :=
  (List.range definitions.length).filter fun i => definitions[i]?.any (·.table.isView)

/-- Where the other tables stand in a list of definitions. -/
def otherPositions (definitions : List Definition) : List Nat :=
  (List.range definitions.length).filter fun i => !definitions[i]?.any (·.table.isView)

/-- The positions of definitions in the order of their creation, and the stuck ones. -/
def positions (detector : Value → Value → Bool) (definitions : List Definition) :
    List Nat × List Nat :=
  let (placed, stuck) :=
    arrange (refersAt detector definitions.toArray) (viewPositions definitions)
  (otherPositions definitions ++ placed ++ stuck, stuck)

/-- The definitions at some positions. -/
def pick (definitions : List Definition) (positions : List Nat) : List Definition :=
  positions.filterMap fun i => definitions[i]?

/-- The names of definitions, which can be listed only when they are texts. -/
def listedNames (definitions : List Definition) : Except Failure (List String) :=
  definitions.zipIdx.mapM fun (definition, position) =>
    match definition.table.name with
    | .text name => .ok name
    | other => .error (.listedShape position other.shape)

/-- The record that names the stuck views. -/
def warning (names : List String) : Log.Record :=
  ⟨.warning, "Circular view references, keeping catalog order for: "
    ++ String.intercalate ", " names⟩

/-- The warnings about an order: one if some view is stuck, else none. -/
def warnings (stuck : List Definition) : Except Failure (List Log.Record) :=
  if stuck.isEmpty then .ok [] else return [warning (← listedNames stuck)]

/-- The first failure when every view is searched for the names of the others in turn. -/
def unsearchable? (definitions : List Definition) : Option Failure :=
  let views := (definitions.filter (·.table.isView)).zipIdx
  views.findSome? fun (view, i) => views.findSome? fun (other, j) =>
    if i = j then none else view.creation.searchFailure? other.table.name

end DatabaseDump.ViewOrder
