import Folio.Draft.Basic

set_option autoImplicit false

namespace Folio

open Edit

mutual

def Node.emitCell : Node → Draft → Draft
  | .mk _ kind children, d =>
    match kind with
    | .text value | .inlineCode value => d.insert value
    | .strong => (emitCells children d).styleSince d.index .isBold
    | .emphasis => (emitCells children d).styleSince d.index .isItalic
    | _ => emitCells children d

def emitCells : List Node → Draft → Draft
  | [], d => d
  | n :: ns, d => emitCells ns (n.emitCell d)

end

def Node.cellRequests (n : Node) (start : Nat) : List Request :=
  (n.emitCell (.startingAt ⟨start⟩)).requests

end Folio
