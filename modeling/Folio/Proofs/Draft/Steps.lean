import Folio.Draft.Cell
import Folio.Draft.Emit

set_option autoImplicit false

namespace Folio

open Edit

/-- Relations of a draft to a later one that inserting and styling stay within. A style goes over all
that was drafted since the earlier one. -/
structure Draft.Stepwise (R : Draft → Draft → Prop) : Prop where
  refl : ∀ d, R d d
  trans : ∀ {d e f}, R d e → R e f → R d f
  insert : ∀ d text, R d (d.insert text)
  styleSince : ∀ {d e} (style : TextStyle), R d e → R d (e.styleSince d.index style)

namespace Draft.Stepwise

variable {R : Draft → Draft → Prop}

theorem terminate (h : Stepwise R) (d : Draft) : R d d.terminate := h.insert d "\n"

theorem insertRows (h : Stepwise R) (rows : List Node) (d : Draft) : R d (d.insertRows rows) := by
  unfold Draft.insertRows
  induction rows generalizing d with
  | nil => exact h.refl d
  | cons row rows ih => exact h.trans (h.trans (h.insert d _) (h.terminate _)) (ih _)

theorem insertAsset (h : Stepwise R)
    (himage : ∀ (d : Draft) (uri : String) (size : Option Size), R d (d.insertImage uri size))
    (s : Setting) (id : Nat) (d : Draft) : R d (d.insertAsset s id) := by
  unfold Draft.insertAsset
  split
  · exact h.trans (himage d _ _) (h.terminate _)
  · exact h.refl d

mutual

theorem emitCell (h : Stepwise R) : (n : Node) → (d : Draft) → R d (n.emitCell d)
  | .mk id kind children, d => by
    have hall := h.emitCells children d
    cases kind with
    | text value | inlineCode value => exact h.insert d value
    | strong | emphasis => exact h.styleSince _ hall
    | _ => exact hall

theorem emitCells (h : Stepwise R) : (ns : List Node) → (d : Draft) → R d (Folio.emitCells ns d)
  | [], d => h.refl d
  | n :: ns, d => h.trans (h.emitCell n d) (h.emitCells ns _)

end

end Draft.Stepwise

end Folio
