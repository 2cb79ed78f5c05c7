import Folio.Document.Node
/-!
Tables that the structure batch leaves for later, and the markers that stand for them until then. A
marker carries the fingerprint of its document, so that text of the author that looks like a marker
is none.
-/
set_option autoImplicit false

namespace Folio

structure TablePlan where
  ordinal : Nat
  node : Node
  rows : Nat
  columns : Nat
  deriving Repr

namespace TablePlan

def ofNode (ordinal : Nat) (node : Node) : TablePlan :=
  ⟨ordinal, node, node.tableShape.1, node.tableShape.2⟩

def cell? (p : TablePlan) (row column : Nat) : Option Node := do
  let r ← p.node.children[row]?
  r.children[column]?

end TablePlan

def markerStart : String := "[[QUIRE_TABLE_"
def markerStop : String := "]]"

/-- The text that stands for a table until its skeleton is in place. -/
def placeholder (fingerprint : String) (ordinal : Nat) : String :=
  markerStart ++ fingerprint ++ "_" ++ ordinal.repr ++ markerStop

end Folio
