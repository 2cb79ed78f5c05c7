import Folio.Json.Basic
/-!
Decoding JSON values into structures. A structure is an object with its members, or an array of their
values in order. Members that it does not know are skipped; one that it knows may not be repeated.
-/
set_option autoImplicit false

namespace Folio.Json

def depthLimit : Nat := 127

def asBool? : Json → Option Bool
  | .bool b => some b
  | _ => none

def asString? : Json → Option String
  | .string s => some s
  | _ => none

def asNat? (bound : Nat) : Json → Option Nat
  | .number (.natural n) => if n < bound then some n else none
  | _ => none

def asCount? : Json → Option Nat := asNat? naturalBound

def asDouble? : Json → Option Double
  | .number (.natural n) => some (.ofNat n)
  | .number (.negative n) => some (.negate (.ofNat n))
  | .number (.double x) => some x
  | .number (.single x) => some x.convert
  | _ => none

/-- A number too large for the format is infinite. -/
def asSingle? : Json → Option Single
  | .number (.natural n) => some (.ofNat n)
  | .number (.negative n) => some (.negate (.ofNat n))
  | .number (.double x) => some x.convert
  | .number (.single x) => some x
  | _ => none

def asOptional? {α : Type} (f : Json → Option α) : Json → Option (Option α)
  | .null => some none
  | v => (f v).map some

def asList? {α : Type} (f : Json → Option α) : Json → Option (List α)
  | .array items => items.mapM f
  | _ => none

def isNull : Json → Bool
  | .null => true
  | _ => false

structure Rules where
  extraItems : Bool
  isUnit : Json → Bool

def Rules.strict : Rules := ⟨false, isNull⟩

/-- One of a set of names: a string, or an object with that one member and nothing in it. -/
def Rules.asName? (r : Rules) : Json → Option String
  | .string s => some s
  | .object [(name, v)] => if r.isUnit v then some name else none
  | _ => none

structure Members where
  entries : List (String × Json)
  /-- Given by position: only members with a default may be missing. -/
  positional : Bool

def Rules.members? (r : Rules) (names : List String) : Json → Option Members
  | .object members =>
    let known := members.filter fun (name, _) => names.contains name
    if (known.map (·.1)).Nodup then some ⟨known, false⟩ else none
  | .array items =>
    if r.extraItems || items.length ≤ names.length then some ⟨names.zip items, true⟩ else none
  | _ => none

def asName? : Json → Option String := Rules.strict.asName?

def members? : List String → Json → Option Members := Rules.strict.members?

namespace Members

variable {α : Type}

def get? (ms : Members) (name : String) : Option Json := ms.entries.lookup name

def required (ms : Members) (name : String) (f : Json → Option α) : Option α :=
  (ms.get? name).bind f

def withDefault (ms : Members) (name : String) (default : α) (f : Json → Option α) : Option α :=
  match ms.get? name with
  | none => some default
  | some v => f v

end Members

end Folio.Json
