import Folio.Draft.Cell
import Folio.Proofs.Draft.Diagrams
/-!
The content of a cell is drafted by a recursion of its own. It comes to the same as drafting a
simpler tree as a document, in which nothing but text, bold and italics is left: the requests are
those of the simpler tree, all of them as much further on as the cell begins behind the start of a
document (`cellRequests_simplified`).
-/
set_option autoImplicit false

namespace Folio

open Edit

/-- What a kind comes to in a cell. Inline code is plain text there, and a node that is neither text
nor bold nor italic does nothing but hold its children, as a table cell does. -/
def Kind.simplified : Kind → Kind
  | .text value | .inlineCode value => .text value
  | .strong => .strong
  | .emphasis => .emphasis
  | _ => .tableCell

mutual

def Node.simplified : Node → Node
  | .mk id kind children => .mk id kind.simplified (simplifiedAll children)

def simplifiedAll : List Node → List Node
  | [] => []
  | n :: ns => n.simplified :: simplifiedAll ns

end

namespace Draft

def moved (d : Draft) (k : Nat) : Draft :=
  { d with cursor := d.cursor.advance k, edits := d.edits.map (Request.moved k) }

variable (d : Draft) (k : Nat)

@[simp] theorem index_moved : (d.moved k).index = d.index + k := rfl

@[simp] theorem requests_moved : (d.moved k).requests = d.requests.map (Request.moved k) :=
  (List.map_reverse (f := Request.moved k) (l := d.edits)).symm

theorem push_moved (r : Request) : (d.push r).moved k = (d.moved k).push (r.moved k) := rfl

theorem advance_comm (c : Cursor) (m : Nat) :
    (c.advance k).advance m = (c.advance m).advance k := by
  simp only [Cursor.advance, Nat.add_right_comm]

/-- Where a draft is begun makes no difference to what is inserted. -/
theorem insert_moved (text : String) : (d.insert text).moved k = (d.moved k).insert text := by
  unfold insert
  split
  · rfl
  · simp only [moved, push, index, Cursor.advancePast, advance_comm k d.cursor]
    rfl

/-- A range moves as a whole, so it is empty before if and only if it is so afterwards. -/
theorem styleSince_moved (start : Nat) (style : TextStyle) :
    (d.styleSince start style).moved k = (d.moved k).styleSince (start + k) style := by
  have hempty : (Range.mk (start + k) (d.moved k).index).isEmpty =
      (Range.mk start d.index).isEmpty := by
    simp [Range.isEmpty]
  unfold styleSince
  rw [hempty]
  split
  · rfl
  · exact push_moved d k _

theorem startingAt_eq_moved {start : Nat} (h : 1 ≤ start) :
    startingAt ⟨start⟩ = empty.moved (start - 1) := by
  have hcursor : start = 1 + (start - 1) := by omega
  rw [empty, moved, startingAt, Cursor.start, Cursor.advance]
  exact congrArg (fun index => Draft.mk ⟨index⟩ [] []) hcursor

end Draft

mutual

/-- Both recursions take the same step at each node. A style begins where its node does, which is
the same place in both, but for the move. -/
theorem emitCell_moved (s : Setting) (k : Nat) : (n : Node) → (d : Draft) →
    n.emitCell (d.moved k) = (n.simplified.emit s d).moved k
  | .mk id kind children, d => by
    have hall := emitCells_moved s k children d
    have hstyled (style : TextStyle) :
        (emitCells children (d.moved k)).styleSince (d.moved k).index style =
          ((emitAll s (simplifiedAll children) d).styleSince d.index style).moved k := by
      rw [hall, Draft.styleSince_moved, Draft.index_moved]
    cases kind with
    | text value | inlineCode value => exact (Draft.insert_moved d k value).symm
    | strong => exact hstyled .isBold
    | emphasis => exact hstyled .isItalic
    | _ => exact hall

theorem emitCells_moved (s : Setting) (k : Nat) : (ns : List Node) → (d : Draft) →
    emitCells ns (d.moved k) = (emitAll s (simplifiedAll ns) d).moved k
  | [], _ => rfl
  | n :: ns, d => by
    rw [emitCells, emitCell_moved s k n d, emitCells_moved s k ns]
    rfl

end

/-- The requests for the content of a cell are those of the simplified tree, drafted as a document
under any setting, with all their positions moved to where the cell begins. -/
theorem cellRequests_simplified (s : Setting) (n : Node) {start : Nat} (h : 1 ≤ start) :
    n.cellRequests start =
      (n.simplified.emit s .empty).requests.map (Request.moved (start - 1)) := by
  rw [Node.cellRequests, Draft.startingAt_eq_moved h, emitCell_moved s, Draft.requests_moved]

theorem cellRequests_simplified_styled :
    let n : Node := .new .strong [.leaf (.text "a"), .leaf (.inlineCode "b"),
      .new .emphasis [.new (.link "https://x.y") [.leaf (.text "😀")],
        .leaf (.image "https://x.y/i" "i")],
      .new .emphasis [.leaf (.text "")]]
    let requests : List Request := [.insertText 7 "a", .insertText 8 "b", .insertText 9 "😀",
      .text ⟨9, 11⟩ .isItalic, .text ⟨7, 11⟩ .isBold]
    1 ≤ 7 ∧ (n.simplified.emit ⟨"ab", .empty, .default⟩ .empty).requests.map (Request.moved 6) =
        requests ∧
      n.cellRequests 7 = requests := by
  intro n requests
  have hmoved : (n.simplified.emit ⟨"ab", .empty, .default⟩ .empty).requests.map (Request.moved 6) =
      requests := by decide +kernel
  exact ⟨by decide, hmoved,
    (cellRequests_simplified ⟨"ab", .empty, .default⟩ n (by decide : 1 ≤ 7)).trans hmoved⟩

end Folio
