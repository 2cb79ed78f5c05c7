import Folio.Edit.Style
/-!
Requests that change a remote document. Positions count UTF-16 code units; content begins at 1. A
batch is carried out in order, each position being one in the document left by the requests before.
-/
set_option autoImplicit false

namespace Folio.Edit

/-- The positions from `start` up to, but not including, `stop`. -/
structure Range where
  start : Nat
  stop : Nat
  deriving Repr, DecidableEq

def Range.isEmpty (r : Range) : Bool := r.stop ≤ r.start

inductive Request where
  | insertText (index : Nat) (text : String)
  | styleParagraph (range : Range) (level : HeadingLevel) (fields : String)
  | styleText (range : Range) (style : TextStyle) (fields : String)
  | insertImage (index : Nat) (uri : String) (size : Option Size)
  | insertTable (index rows columns : Nat)
  | delete (range : Range)
  deriving Repr, DecidableEq

def paragraphFields : String := "namedStyleType"

namespace Request

def heading (range : Range) (level : HeadingLevel) : Request :=
  .styleParagraph range level paragraphFields

def text (range : Range) (style : TextStyle) : Request := .styleText range style style.fields

end Request

end Folio.Edit
