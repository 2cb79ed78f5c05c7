import Folio.Json.Basic
/-!
TOML documents as trees, and the rules by which their statements build them. A table is defined once:
it may be opened by a header, by dotted keys or in place, and what one of these has completed the
others do not extend.
-/
set_option autoImplicit false

namespace Folio

inductive TableOrigin where
  | header
  /-- By the header of a table inside it. -/
  | implied
  | dotted
  | inPlace
  deriving Repr, DecidableEq

inductive Toml where
  | string (s : String)
  | integer (n : Int)
  | float (x : Double)
  | boolean (b : Bool)
  /-- Dates and times are checked and not kept. -/
  | moment
  | array (items : List Toml)
  | table (origin : TableOrigin) (entries : List (String × Toml))
  | tables (elements : List (List (String × Toml)))

namespace Toml

instance : Inhabited Toml := ⟨.boolean false⟩

abbrev Entries := List (String × Toml)

def alter (key : String) (f : Option Toml → Option Toml) : Entries → Option Entries
  | [] => (f none).map fun v => [(key, v)]
  | (k, v) :: rest =>
    if k == key then (f (some v)).map fun v => (k, v) :: rest
    else (alter key f rest).map ((k, v) :: ·)

def alterLast (f : Entries → Option Entries) : List Entries → Option (List Entries)
  | [] => none
  | [es] => (f es).map fun es => [es]
  | es :: rest => (alterLast f rest).map (es :: ·)

/-- Changes the table at a path of headers; tables on the way that are missing are implied. -/
def within : List String → (Entries → Option Entries) → Entries → Option Entries
  | [], f, es => f es
  | key :: path, f, es =>
    alter key (fun
      | none => (within path f []).map (.table .implied)
      | some (.table origin inner) =>
        if origin = .inPlace then none else (within path f inner).map (.table origin)
      | some (.tables elements) => (alterLast (within path f) elements).map .tables
      | some _ => none) es

/-- Gives a value to a new key. A dotted key extends tables made by dotted keys only, though it may
pass through implied ones. -/
def define : List String → String → Toml → Entries → Option Entries
  | [], key, v, es => if es.any (·.1 == key) then none else some (es ++ [(key, v)])
  | step :: path, key, v, es =>
    alter step (fun
      | none => (define path key v []).map (.table .dotted)
      | some (.table origin inner) =>
        if origin = .dotted ∨ (origin = .implied ∧ path ≠ []) then
          (define path key v inner).map (.table origin)
        else none
      | some (.tables elements) =>
        if path.isEmpty then none else (alterLast (define path key v) elements).map .tables
      | some _ => none) es

def openTable (key : String) : Entries → Option Entries :=
  alter key fun
    | none => some (.table .header [])
    | some (.table .implied inner) => some (.table .header inner)
    | some _ => none

def openElement (key : String) : Entries → Option Entries :=
  alter key fun
    | none => some (.tables [[]])
    | some (.tables elements) => some (.tables (elements ++ [[]]))
    | some _ => none

def inPlaceTable (keys : List (List String × String × Toml)) : Option Toml :=
  (keys.foldlM (fun es (path, key, v) => define path key v es) []).map (.table .inPlace)

inductive Statement where
  | header (path : List String) (key : String)
  | element (path : List String) (key : String)
  | keyValue (path : List String) (key : String) (v : Toml)

structure Build where
  root : Entries
  current : List String

def Build.step? (b : Build) : Statement → Option Build
  | .header path key => (within path (openTable key) b.root).map fun root => ⟨root, path ++ [key]⟩
  | .element path key => (within path (openElement key) b.root).map fun root => ⟨root, path ++ [key]⟩
  | .keyValue path key v => (within b.current (define path key v) b.root).map fun root => ⟨root, b.current⟩

def ofStatements? (statements : List Statement) : Option Entries :=
  (statements.foldlM Build.step? ⟨[], []⟩).map (·.root)

mutual

/-- The same data in JSON terms; dates and times stand for nothing there. -/
def toJson : Toml → Json
  | .string s => .string s
  | .integer n => .int n
  | .float x => .number (.double x)
  | .boolean b => .bool b
  | .moment => .unreadable
  | .array items => .array (itemsToJson items)
  | .table _ entries => .object (entriesToJson entries)
  | .tables elements => .array (elementsToJson elements)

def itemsToJson : List Toml → List Json
  | [] => []
  | v :: vs => v.toJson :: itemsToJson vs

def entriesToJson : List (String × Toml) → List (String × Json)
  | [] => []
  | (key, v) :: rest => (key, v.toJson) :: entriesToJson rest

def elementsToJson : List (List (String × Toml)) → List Json
  | [] => []
  | es :: rest => .object (entriesToJson es) :: elementsToJson rest

end

end Toml

end Folio
