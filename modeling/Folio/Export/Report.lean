import Folio.Asset.Resolve
import Folio.Table.Error

set_option autoImplicit false

namespace Folio

inductive TableOutcome where
  | none
  | complete (tables : Nat)
  | partly (expected completed : Nat) (problems : List TableError)
  deriving Repr, DecidableEq

def TableOutcome.isDegraded : TableOutcome → Bool
  | .partly .. => true
  | _ => false

/-- `degraded` counts what was left out or written only in part. -/
structure ExportReport where
  documentId : String
  degraded : Nat
  warnings : List String
  tables : TableOutcome
  deriving Repr, DecidableEq

def ExportReport.isDegraded (r : ExportReport) : Bool := 0 < r.degraded

inductive ExportError where
  | createDocument (source : ServiceError)
  | commitStructure (document : String) (source : ServiceError)
  | tables (document : String) (source : TableError)
  deriving Repr, DecidableEq

namespace ExportError

def document? : ExportError → Option String
  | .createDocument _ => none
  | .commitStructure document _ | .tables document _ => some document

def message? : ExportError → Option String
  | .createDocument source => source.message?.map ("failed to create document: " ++ ·)
  | .commitStructure document source =>
    source.message?.map (("failed to write document " ++ document ++ ": ") ++ ·)
  | .tables document _ => some ("tables in document " ++ document ++ " could not be completed")

def code : ExportError → String
  | .createDocument _ => "quire::export::create"
  | .commitStructure .. => "quire::export::commit"
  | .tables .. => "quire::export::tables"

def signInAdvice : String := "the access token looks expired or revoked; sign in again and retry"

def partialTablesAdvice : String :=
  "the document holds all non-table content; rerun without strict_tables to accept partial tables"

def help? : ExportError → Option String
  | .createDocument source | .commitStructure _ source =>
    if source.isAuthExpired then some signInAdvice else none
  | .tables .. => some partialTablesAdvice

end ExportError

def AssetFailure.warning (f : AssetFailure) : String :=
  f.kind.label ++ " #" ++ f.node.repr ++ " omitted: " ++ f.error.message?.getD f.error.code

end Folio
