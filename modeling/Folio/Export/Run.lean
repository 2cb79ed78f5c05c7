import Folio.Draft.Emit
import Folio.Export.Report
import Folio.Table.Materialize
/-!
An export from a markdown text to a remote document: pictures first, then the structure in one batch,
then the tables. Trouble with pictures or tables degrades the result; only the user's wish makes
trouble with tables an error.
-/
set_option autoImplicit false

namespace Folio

open Edit

structure ExportSettings where
  options : ExportOptions
  style : PictureStyle
  deriving Repr, DecidableEq

def dryRun [Markdown.Parser] (markdown : String) (options : ExportOptions) : Draft :=
  (Document.ofMarkdown markdown).compile .empty options

def tableFailure (strict : Bool) (document : String) (expected completed : Nat)
    (problems : List TableError) : Except ExportError TableOutcome :=
  match strict, problems with
  | true, problem :: _ => .error (.tables document problem)
  | _, _ => .ok (.partly expected completed problems)

def Placement.problems (p : Placement) (expected : Nat) : List TableError :=
  (if p.missing.isEmpty then [] else [.placeholderMissing expected p.missing.length]) ++
  (if p.nested.isEmpty then [] else [.nestedUnsupported p.nested]) ++
  (if p.ambiguous.isEmpty then [] else [.ambiguousPlaceholder p.ambiguous])

/-- Fills the placed tables; returns how many, and the problem there was. -/
def fillPlaced (document : String) (plans : List TablePlan) (placed : List Nat) :
    Process (Nat × List TableError) := do
  if placed.isEmpty then return (0, [])
  else match ← populateTables document plans placed with
    | .ok population => return (population.tables, [])
    | .error e => return (0, [e])

def materialize (strict : Bool) (document fingerprint : String) (plans : List TablePlan) :
    Process (Except ExportError TableOutcome) := do
  let expected := plans.length
  Process.call (.enter .materializingTables)
  match ← placeSkeletons document fingerprint plans with
  | .error e => return tableFailure strict document expected 0 [e]
  | .ok placement =>
    Process.call (.enter .populatingTables)
    let (completed, trouble) ← fillPlaced document plans placement.placed
    let problems := placement.problems expected ++ trouble
    if problems.isEmpty then return .ok (.complete completed)
    else return tableFailure strict document expected completed problems

def report (document : String) (failures : List AssetFailure) (tables : TableOutcome) :
    ExportReport :=
  let warnings := failures.map AssetFailure.warning
  match tables with
  | .partly expected completed problems =>
    ⟨document, failures.length + (expected - completed), warnings ++ problems.map TableError.message,
      tables⟩
  | _ => ⟨document, failures.length, warnings, tables⟩

def writeDocument (s : ExportSettings) (title : String) (doc : Document) (draft : Draft)
    (failures : List AssetFailure) : Process (Except ExportError ExportReport) := do
  match ← Process.call (.create title) with
  | .error e => return .error (.createDocument e)
  | .ok document =>
    let committed ←
      if draft.requests.isEmpty then pure (.ok ())
      else Process.call (.commit document draft.requests)
    match committed with
    | .error e => return .error (.commitStructure document e)
    | .ok () =>
      if draft.plans.isEmpty then return .ok (report document failures .none)
      else match ← materialize s.options.strictTables document doc.fingerprint draft.plans with
        | .error e => return .error e
        | .ok tables => return .ok (report document failures tables)

def exportBody [Markdown.Parser] (s : ExportSettings) (markdown title : String) :
    Process (Except ExportError ExportReport) := do
  let doc := Document.ofMarkdown markdown
  Process.call (.enter .resolvingAssets)
  let resolved ← doc.resolve s.style s.options
  Process.call (.enter .emitting)
  let draft := doc.compile resolved.map s.options
  Process.call (.enter .committingStructure)
  writeDocument s title doc draft resolved.failures

def exportMarkdown [Markdown.Parser] (s : ExportSettings) (markdown title : String) :
    Process (Except ExportError ExportReport) := do
  let result ← exportBody s markdown title
  match result with
  | .ok _ => Process.call (.enter .done)
  | .error _ => Process.call (.enter .failed)
  return result

end Folio
