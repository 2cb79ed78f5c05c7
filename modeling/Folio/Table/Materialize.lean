import Folio.Export.Process
import Folio.Table.Placement
import Folio.Table.Population
/-!
The two later phases of a document with tables: markers give way to empty tables, and these are
filled. Either phase can be run again; what is done already is not done twice.
-/
set_option autoImplicit false

namespace Folio

open Edit

def commitBatch (document : String) (requests : List Request) : Process (Except TableError Unit) := do
  if requests.isEmpty then return .ok ()
  else match ← Process.call (.commit document requests) with
    | .ok () => return .ok ()
    | .error e => return .error (.service e)

/-- Puts empty tables in the place of markers. A document without markers and with all its tables is
finished already; one with some tables is not touched. -/
def placeSkeletons (document fingerprint : String) (plans : List TablePlan) :
    Process (Except TableError Placement) := do
  match ← Process.call (.fetch document) with
  | .error e => return .error (.service e)
  | .ok snapshot =>
    let found := snapshot.markers fingerprint
    let existing := snapshot.tables.length
    if found.isEmpty && existing == plans.length then return .ok (.ofPlans plans)
    else if 0 < existing then
      return .error (.placeholderMissing plans.length (plans.length - found.length))
    else
      let (selected, placement) := selectMarkers found plans
      match ← commitBatch document (skeletonRequests selected plans) with
      | .error e => return .error e
      | .ok () => return .ok placement

structure Population where
  tables : Nat
  requests : Nat
  deriving Repr, DecidableEq

def populateTables (document : String) (plans : List TablePlan) (placed : List Nat) :
    Process (Except TableError Population) := do
  match ← Process.call (.fetch document) with
  | .error e => return .error (.service e)
  | .ok snapshot =>
    match pairTables snapshot plans placed with
    | .error e => return .error e
    | .ok pairs =>
      let requests := populationRequests pairs
      match ← commitBatch document requests with
      | .error e => return .error e
      | .ok () => return .ok ⟨pairs.length, requests.length⟩

end Folio
