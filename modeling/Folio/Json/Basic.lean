import Folio.Number.Shortest

set_option autoImplicit false

namespace Folio

namespace Json

/-- Numbers written without fraction or exponent are kept apart from the others. -/
inductive Number where
  | natural (n : Nat)
  | negative (n : Nat)
  | double (x : Double)
  | single (x : Single)
  deriving Repr, DecidableEq

def naturalBound : Nat := Nat.pow 2 64

end Json

inductive Json where
  | null
  | bool (b : Bool)
  | number (n : Json.Number)
  | string (s : String)
  | array (items : List Json)
  | object (members : List (String × Json))
  /-- Text of the right form that stands for no value: half a surrogate pair, or a number beyond the
  largest one. It may be skipped and cannot be decoded. -/
  | unreadable
  deriving Repr

namespace Json

instance : Inhabited Json := ⟨.null⟩

def nat (n : Nat) : Json := .number (.natural n)

def int (n : Int) : Json := .number (if 0 ≤ n then .natural n.toNat else .negative n.natAbs)

def ofDouble (x : Double) : Json := if x.isFinite then .number (.double x) else .null

def ofSingle (x : Single) : Json := if x.isFinite then .number (.single x) else .null

def ofOption {α : Type} (f : α → Json) : Option α → Json
  | none => .null
  | some a => f a

/-- A member that is left out when there is no value. -/
def member? {α : Type} (name : String) (f : α → Json) : Option α → List (String × Json)
  | none => []
  | some a => [(name, f a)]

mutual

/-- Whether a value holds nothing unreadable and nests at most `depth` arrays and objects. -/
def isReadable (depth : Nat) : Json → Bool
  | .unreadable => false
  | .array items => 0 < depth && allReadable (depth - 1) items
  | .object members => 0 < depth && membersReadable (depth - 1) members
  | _ => true

def allReadable (depth : Nat) : List Json → Bool
  | [] => true
  | v :: vs => v.isReadable depth && allReadable depth vs

def membersReadable (depth : Nat) : List (String × Json) → Bool
  | [] => true
  | (_, v) :: ms => v.isReadable depth && membersReadable depth ms

end

end Json

end Folio
