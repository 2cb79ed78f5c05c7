import Folio.Draft.Cell
import Folio.Snapshot.Basic
import Folio.Table.Error
/-!
Writing the content of cells into tables that are in place. The last cell of the last table comes
first, so no request moves a cell that is still to be written. Cells that hold text are left alone.
-/
set_option autoImplicit false

namespace Folio

open Edit

/-- A table of a snapshot has as many rows as planned, and its widest row as many cells. -/
def checkShape (plan : TablePlan) (table : Snapshot.Table) : Except TableError Unit :=
  let (rows, columns) := table.shape
  if rows = plan.rows ∧ columns = plan.columns then .ok ()
  else .error (.shapeMismatch plan.ordinal plan.rows plan.columns rows columns)

/-- Checks the tables against the plans of their ordinals; an ordinal without a plan is skipped. -/
def matchPlans (plans : List TablePlan) :
    List (Nat × Snapshot.Table) → Except TableError (List (TablePlan × Snapshot.Table))
  | [] => .ok []
  | (ordinal, table) :: rest =>
    match plans.find? (·.ordinal == ordinal) with
    | none => matchPlans plans rest
    | some plan => do
      checkShape plan table
      let pairs ← matchPlans plans rest
      return (plan, table) :: pairs

/-- Pairs the placed plans with the outermost tables of a snapshot, in order. -/
def pairTables (snapshot : Snapshot) (plans : List TablePlan) (placed : List Nat) :
    Except TableError (List (TablePlan × Snapshot.Table)) :=
  let tables := snapshot.tables
  if tables.length = placed.length then matchPlans plans (placed.zip tables)
  else .error (.countMismatch placed.length tables.length)

def cellPopulation (plan : TablePlan) (row column : Nat) (cell : Snapshot.Cell) : List Request :=
  match plan.cell? row column with
  | none => []
  | some content => if cell.isBlank then content.cellRequests cell.contentStart else []

def rowPopulation (plan : TablePlan) (row : Nat) (r : Snapshot.Row) : List Request :=
  r.cells.zipIdx.reverse.flatMap fun (cell, column) => cellPopulation plan row column cell

def tablePopulation (plan : TablePlan) (table : Snapshot.Table) : List Request :=
  table.tableRows.zipIdx.reverse.flatMap fun (r, row) => rowPopulation plan row r

def populationRequests (pairs : List (TablePlan × Snapshot.Table)) : List Request :=
  pairs.reverse.flatMap fun (plan, table) => tablePopulation plan table

end Folio
