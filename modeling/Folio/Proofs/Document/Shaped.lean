import Folio.Document.Node

set_option autoImplicit false

namespace Folio

theorem Node.mem_preorderAll {m : Node} {ns : List Node} :
    m ∈ preorderAll ns ↔ ∃ n ∈ ns, m ∈ n.preorder := by
  induction ns with
  | nil => simp [preorderAll]
  | cons n ns ih => simp [preorderAll, ih]

theorem Node.mem_preorderAll_reverse {m : Node} {ns : List Node} :
    m ∈ preorderAll ns.reverse ↔ m ∈ preorderAll ns := by
  simp only [mem_preorderAll, List.mem_reverse]

/-- Lists have items, leaves have no children, and no table is below a table. -/
def Kind.admits (kind : Kind) (children : List Node) : Bool :=
  match kind with
  | .list _ => children.all (·.kind == .listItem)
  | .text _ | .inlineCode _ | .image .. | .code .. => children.isEmpty
  | .table _ => (Node.preorderAll children).all (!·.kind.isTable)
  | _ => true

mutual

def Node.isShaped : Node → Bool
  | .mk _ kind children => kind.admits children && allShaped children

def allShaped : List Node → Bool
  | [] => true
  | n :: ns => n.isShaped && allShaped ns

end

/-- What a table may hold at any depth. -/
def Kind.isTablePart : Kind → Bool
  | .tableRow | .tableCell => true
  | kind => kind.isInline

/-- The tables among these nodes hold rows, cells and inline nodes only. -/
def HoldParts (ns : List Node) : Prop :=
  ∀ t ∈ ns, t.kind.isTable = true → ∀ n ∈ Node.preorderAll t.children, n.kind.isTablePart = true

instance (ns : List Node) : Decidable (HoldParts ns) :=
  inferInstanceAs (Decidable (∀ t ∈ ns, t.kind.isTable = true →
    ∀ n ∈ Node.preorderAll t.children, n.kind.isTablePart = true))

theorem HoldParts.append {ns ms : List Node} :
    HoldParts (ns ++ ms) ↔ HoldParts ns ∧ HoldParts ms := List.forall_mem_append

theorem HoldParts.cons {n : Node} {ns : List Node} : HoldParts (n :: ns) ↔
    (n.kind.isTable = true → ∀ m ∈ Node.preorderAll n.children, m.kind.isTablePart = true) ∧
      HoldParts ns := List.forall_mem_cons

def Node.isFormed (n : Node) : Bool :=
  match n.kind with
  | .list _ => n.children.all (·.kind == .listItem)
  | .text _ | .inlineCode _ | .image .. | .code .. => n.children.isEmpty
  | _ => true

def Formed (ns : List Node) : Prop := ∀ n ∈ ns, n.isFormed = true

instance (ns : List Node) : Decidable (Formed ns) :=
  inferInstanceAs (Decidable (∀ n ∈ ns, n.isFormed = true))

theorem Formed.append {ns ms : List Node} : Formed (ns ++ ms) ↔ Formed ns ∧ Formed ms :=
  List.forall_mem_append

theorem Formed.cons {n : Node} {ns : List Node} :
    Formed (n :: ns) ↔ n.isFormed = true ∧ Formed ns := List.forall_mem_cons

end Folio
