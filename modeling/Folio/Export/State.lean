set_option autoImplicit false

namespace Folio

inductive ExportState where
  | idle
  | resolvingAssets
  | emitting
  | committingStructure
  | materializingTables
  | populatingTables
  | done
  | failed
  deriving Repr, DecidableEq

namespace ExportState

/-- In the order in which an export passes through them. -/
def all : List ExportState :=
  [.idle, .resolvingAssets, .emitting, .committingStructure, .materializingTables,
    .populatingTables, .done, .failed]

def isTerminal : ExportState → Bool
  | .done | .failed => true
  | _ => false

def status : ExportState → String
  | .idle => "idle"
  | .resolvingAssets => "rendering diagrams"
  | .emitting => "building document"
  | .committingStructure => "writing document"
  | .materializingTables => "inserting tables"
  | .populatingTables => "filling tables"
  | .done => "done"
  | .failed => "failed"

end ExportState

end Folio
