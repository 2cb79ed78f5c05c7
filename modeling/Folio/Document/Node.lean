set_option autoImplicit false

namespace Folio

inductive Kind where
  | document
  | heading (depth : Nat)
  | paragraph
  | text (value : String)
  | inlineCode (value : String)
  | strong
  | emphasis
  | link (url : String)
  /-- `start` is the number of the first item of an ordered list. -/
  | list (start : Option Nat)
  | listItem
  | image (url alt : String)
  | code (lang : Option String) (value : String)
  /-- `source` is the table as its author wrote it. -/
  | table (source : String)
  | tableRow
  | tableCell
  deriving Repr, DecidableEq

def Kind.isInline : Kind → Bool
  | .text _ | .inlineCode _ | .strong | .emphasis | .link _ | .image .. => true
  | _ => false

def Kind.isTable : Kind → Bool
  | .table _ => true
  | _ => false

/-- The literal text that a node of this kind holds itself. -/
def Kind.ownText : Kind → String
  | .text value | .inlineCode value => value
  | .image _ alt => alt
  | _ => ""

inductive Node where
  | mk (id : Nat) (kind : Kind) (children : List Node)
  deriving Repr

instance : Inhabited Node := ⟨.mk 0 .document []⟩

namespace Node

def id : Node → Nat
  | mk i _ _ => i

def kind : Node → Kind
  | mk _ k _ => k

def children : Node → List Node
  | mk _ _ cs => cs

@[simp] theorem id_mk (i : Nat) (k : Kind) (cs : List Node) : (mk i k cs).id = i := rfl
@[simp] theorem kind_mk (i : Nat) (k : Kind) (cs : List Node) : (mk i k cs).kind = k := rfl
@[simp] theorem children_mk (i : Nat) (k : Kind) (cs : List Node) : (mk i k cs).children = cs := rfl

def new (kind : Kind) (children : List Node) : Node := mk 0 kind children

def leaf (kind : Kind) : Node := new kind []

def isInline (n : Node) : Bool := n.kind.isInline

mutual

def size : Node → Nat
  | mk _ _ cs => sizeAll cs + 1

def sizeAll : List Node → Nat
  | [] => 0
  | n :: ns => n.size + sizeAll ns

end

mutual

def preorder : Node → List Node
  | mk i k cs => mk i k cs :: preorderAll cs

def preorderAll : List Node → List Node
  | [] => []
  | n :: ns => n.preorder ++ preorderAll ns

end

/-- Visits the top of a stack of nodes and puts its children in its place. -/
def visit : Nat → List Node → List Node
  | 0, _ => []
  | _, [] => []
  | fuel + 1, n :: stack => n :: visit fuel (n.children ++ stack)

def descendants (n : Node) : List Node := visit n.size [n]

theorem preorderAll_append (as bs : List Node) :
    preorderAll (as ++ bs) = preorderAll as ++ preorderAll bs := by
  induction as with
  | nil => simp [preorderAll]
  | cons a as ih => simp [preorderAll, ih]

theorem sizeAll_append (as bs : List Node) : sizeAll (as ++ bs) = sizeAll as + sizeAll bs := by
  induction as with
  | nil => simp [sizeAll]
  | cons a as ih => simp [sizeAll, ih]; omega

theorem visit_eq_preorderAll (fuel : Nat) (stack : List Node) (h : sizeAll stack = fuel) :
    visit fuel stack = preorderAll stack := by
  induction fuel generalizing stack with
  | zero =>
    cases stack with
    | nil => rfl
    | cons n ns => cases n; simp [sizeAll, size] at h
  | succ fuel ih =>
    cases stack with
    | nil => simp [sizeAll] at h
    | cons n ns =>
      cases n with
      | mk i k cs =>
        have hs : sizeAll (cs ++ ns) = fuel := by simp [sizeAll, size] at h; rw [sizeAll_append]; omega
        simp [visit, preorderAll, preorder, ih _ hs, preorderAll_append]

theorem descendants_eq_preorder (n : Node) : n.descendants = n.preorder := by
  rw [descendants, visit_eq_preorderAll _ _ (by simp [sizeAll])]
  simp [preorderAll]

def plainText (n : Node) : String := String.join (n.descendants.map (·.kind.ownText))

def tableShape (n : Node) : Nat × Nat :=
  (n.children.length, (n.children.map (·.children.length)).foldl max 0)

theorem max?_widths (n : Node) :
    (0 :: n.children.map (·.children.length)).max? = some n.tableShape.2 :=
  List.max?_cons'

mutual

/-- Gives out identities from `next` on, in pre-order; returns the first one not used. -/
def number (next : Nat) : Node → Node × Nat
  | mk _ k cs =>
    let (cs, after) := numberAll (next + 1) cs
    (mk next k cs, after)

def numberAll (next : Nat) : List Node → List Node × Nat
  | [] => ([], next)
  | n :: ns =>
    let (n, after) := n.number next
    let (ns, last) := numberAll after ns
    (n :: ns, last)

end

end Node

end Folio
