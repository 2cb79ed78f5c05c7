import Folio.Asset.Basic
import Folio.Config.Options
import Folio.Document.Basic

set_option autoImplicit false

namespace Folio

structure AssetTarget where
  id : Nat
  kind : AssetKind
  source : String
  deriving Repr, DecidableEq

def asciiLower (s : String) : String := s.map Char.toLower

/-- Code in a diagram language, and tables if they are exported as pictures. -/
def Node.target? (options : ExportOptions) (n : Node) : Option AssetTarget :=
  match n.kind with
  | .code (some lang) value =>
    if options.isDiagramLanguage lang then some ⟨n.id, .diagram (asciiLower lang), value⟩ else none
  | .table source =>
    if options.tableStrategy = .image then some ⟨n.id, .table, source⟩ else none
  | _ => none

def Document.targets (d : Document) (options : ExportOptions) : List AssetTarget :=
  d.nodes.filterMap (Node.target? options)

end Folio
