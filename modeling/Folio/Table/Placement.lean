import Folio.Table.Marker

set_option autoImplicit false

namespace Folio

open Edit

/-- The ordinals of all planned tables, each in one of four lists, ascending. -/
structure Placement where
  /-- Those whose skeletons are in the document, in its order. -/
  placed : List Nat
  missing : List Nat
  /-- Those whose only marker is inside a table. -/
  nested : List Nat
  /-- Those with several markers; none of these is replaced. -/
  ambiguous : List Nat
  deriving Repr, DecidableEq

namespace Placement

def empty : Placement := ⟨[], [], [], []⟩

def isComplete (p : Placement) : Bool :=
  p.missing.isEmpty && p.nested.isEmpty && p.ambiguous.isEmpty

def ofPlans (plans : List TablePlan) : Placement := { empty with placed := plans.map (·.ordinal) }

end Placement

/-- The markers of a planned table; markers beyond the number of plans belong to none. -/
def markersOf (found : List MarkerMatch) (count ordinal : Nat) : List MarkerMatch :=
  found.filter fun m => m.ordinal < count && m.ordinal == ordinal

def classify (plan : TablePlan) (markers : List MarkerMatch)
    (rest : List MarkerMatch × Placement) : List MarkerMatch × Placement :=
  let (selected, p) := rest
  match markers with
  | [] => (selected, { p with missing := plan.ordinal :: p.missing })
  | [m] =>
    if m.depth == 0 then (m :: selected, { p with placed := plan.ordinal :: p.placed })
    else (selected, { p with nested := plan.ordinal :: p.nested })
  | _ => (selected, { p with ambiguous := plan.ordinal :: p.ambiguous })

/-- The markers that can be replaced: those found exactly once, outside all tables. -/
def selectMarkers (found : List MarkerMatch) (plans : List TablePlan) :
    List MarkerMatch × Placement :=
  plans.foldr (fun plan rest => classify plan (markersOf found plans.length plan.ordinal) rest)
    ([], .empty)

/-- Later markers first; those at one place stay in order. -/
def byDescendingStart (ms : List MarkerMatch) : List MarkerMatch :=
  ms.mergeSort fun a b => b.start ≤ a.start

def replaceMarker (plans : List TablePlan) (m : MarkerMatch) : List Request :=
  match plans[m.ordinal]? with
  | some plan => [.delete m.range, .insertTable m.start plan.rows plan.columns]
  | none => []

def skeletonRequests (selected : List MarkerMatch) (plans : List TablePlan) : List Request :=
  (byDescendingStart selected).flatMap (replaceMarker plans)

end Folio
