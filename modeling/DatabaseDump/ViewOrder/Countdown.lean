import DatabaseDump.ViewOrder

/-!
# Counting down what views wait for

The order of views as it comes about in tables. One holds for every view how many of the others
it waits for. Placing a view takes one off for each view that refers to it, at once, so a view
that stands later in the catalog may be placed in the same scan.

A scan that places nothing makes an end: the views that are left follow in catalog order, with a
warning that names them. Views are known by their places in the list of all views.
-/

namespace DatabaseDump.ViewOrder

/-- How far the views are placed. The first three tables have an entry for every view. -/
structure Countdown where
  /-- How many of the views that it refers to are not placed yet. -/
  awaited : List Int
  /-- The views that refer to it. -/
  dependents : List (List Nat)
  visited : List Bool
  ordered : List Nat := []
  /-- Whether the last scan placed a view. -/
  placed : Bool := false
  /-- The views that each warning named. -/
  warned : List (List Nat) := []
  deriving DecidableEq, Repr

namespace Countdown

/-- Whether a view refers to another one. A view does not wait for itself. -/
def refersElsewhere (refers : Nat → Nat → Bool) (i j : Nat) : Bool := i != j && refers i j

/-- The tables before the first scan. -/
def initial (refers : Nat → Nat → Bool) (count : Nat) : Countdown :=
  let views := List.range count
  { awaited := views.map fun i => (views.countP (refersElsewhere refers i) : Nat)
    dependents := views.map fun j => views.filter fun i => refersElsewhere refers i j
    visited := views.map fun _ => false }

/-- Whether a view is to be placed when a scan comes to it. -/
def isDue (i : Nat) (state : Countdown) : Bool :=
  state.visited[i]? == some false && state.awaited[i]? == some 0

/-- Places a view and counts down for the views that refer to it. -/
def visit (i : Nat) (state : Countdown) : Countdown :=
  { state with
    awaited := (state.dependents.getD i []).foldl
      (fun awaited k => awaited.modify k fun number => number - 1) state.awaited
    visited := state.visited.set i true
    ordered := state.ordered ++ [i]
    placed := true }

/-- Goes through some views and places those that are due. -/
def pass (views : List Nat) (state : Countdown) : Countdown :=
  views.foldl (fun state i => if state.isDue i then state.visit i else state) state

theorem pass_cons (i : Nat) (views : List Nat) (state : Countdown) :
    pass (i :: views) state
      = pass views (if state.isDue i then state.visit i else state) := rfl

/-- The views that were not visited, in catalog order. -/
def left (count : Nat) (state : Countdown) : List Nat :=
  (List.range count).filter fun i => state.visited[i]? == some false

/-- One scan of all views, and what follows it when it has placed nothing. -/
def scanned (count : Nat) (state : Countdown) : Countdown :=
  let after := pass (List.range count) { state with placed := false }
  if after.placed then after
  else
    { after with
      ordered := after.ordered ++ after.left count
      warned := after.warned ++ [after.left count] }

/-- So many scans are made from one state to the other, where all views have their place. -/
inductive Runs (count : Nat) : Countdown → Nat → Countdown → Prop where
  | done {state : Countdown} (h : count ≤ state.ordered.length) : Runs count state 0 state
  | scan {state last : Countdown} {scans : Nat} (h : state.ordered.length < count)
      (rest : Runs count (state.scanned count) scans last) : Runs count state (scans + 1) last

end Countdown

end DatabaseDump.ViewOrder
