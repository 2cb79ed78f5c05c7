import Folio.Asset.Basic
/-!
The viewport: the one place where an element can be mounted to be captured. Whoever holds it has it
alone, and letting go of it takes down what is mounted.
-/
set_option autoImplicit false

namespace Folio

structure Viewport where
  held : Bool
  slot : Option Element
  deriving Repr, DecidableEq

namespace Viewport

def empty : Viewport := ⟨false, none⟩

/-- Only a viewport that nobody holds can be taken. -/
def acquire? (v : Viewport) : Option Viewport := if v.held then none else some { v with held := true }

def release (_ : Viewport) : Viewport := empty

def mount (v : Viewport) (e : Element) : Viewport := { v with slot := some e }

def mounted (v : Viewport) : Option Element := v.slot

def isOccupied (v : Viewport) : Bool := v.held || v.slot.isSome

def capture (v : Viewport) (rasterize : Element → Except CaptureError Image) :
    Except CaptureError Image :=
  match v.mounted with
  | some e => rasterize e
  | none => .error .nothingMounted

end Viewport

end Folio
