import Folio.Draft.Emit
import Folio.Proofs.Remote.Rewrite
/-!
What a tree says, read from the top down and without positions: pieces in pre-order, each with the
kinds of the nodes around it, from which alone its look follows. `Kind.lend` is the step behind it:
what one more node around a piece does to its look.
-/
set_option autoImplicit false

namespace Folio

open Edit Remote

def Kind.headingDepth? : Kind → Option Nat
  | .heading depth => some depth
  | _ => none

def Kind.linkUrl? : Kind → Option String
  | .link url => some url
  | _ => none

inductive Tone where
  | plain
  | inlineCode
  | codeBlock
  deriving Repr, DecidableEq

inductive Matter where
  | text (tone : Tone) (value : String)
  | picture (uri : String)
  | table (node : Node)
  deriving Repr

/-- `above` has the kinds of the nodes around a piece, the outermost first. -/
structure Piece where
  above : List Kind
  matter : Matter
  deriving Repr

namespace Piece

def plain (above : List Kind) (value : String) : Piece := ⟨above, .text .plain value⟩

def lineEnd (above : List Kind) : Piece := plain above "\n"

def under (outer : List Kind) (p : Piece) : Piece := { p with above := outer ++ p.above }

def tone (p : Piece) : Tone :=
  match p.matter with
  | .text tone _ => tone
  | _ => .plain

def headingDepth? (p : Piece) : Option Nat := p.above.findSome? Kind.headingDepth?

/-- The look of a piece, as the nodes around it say. Of several links or headings the outermost one
counts. -/
def look (s : Setting) (p : Piece) : Look where
  text := {
    bold :=
      if Kind.strong ∈ p.above ∨ s.options.headingTextStyles = true ∧ p.headingDepth?.isSome then
        some true
      else none
    italic := if Kind.emphasis ∈ p.above then some true else none
    link := p.above.findSome? Kind.linkUrl?
    font := if p.tone = .plain then none else some ⟨codeFont, none⟩
    background := if p.tone = .codeBlock then some codeBackground else none
    size :=
      if s.options.headingTextStyles then
        p.headingDepth?.map fun depth => .ofNat (headingPoints (.ofDepth depth))
      else none }
  heading := p.headingDepth?.map .ofDepth

end Piece

def assetPieces (s : Setting) (above : List Kind) (id : Nat) : List Piece :=
  match s.assets.get? id with
  | some uri => [⟨above, .picture uri⟩, .lineEnd above]
  | none => []

def tablePieces (s : Setting) (above : List Kind) (node : Node) : List Piece :=
  match s.options.tableStrategy with
  | .native => [⟨above, .table node⟩, .lineEnd above]
  | .image =>
    if (s.assets.get? node.id).isSome then assetPieces s above node.id
    else node.children.flatMap fun row => [.plain above (rowText row), .lineEnd above]

def codePieces (s : Setting) (above : List Kind) (id : Nat) (lang : Option String)
    (value : String) : List Piece :=
  if s.isDiagram lang then assetPieces s above id
  else [⟨above, .text .codeBlock value⟩, .lineEnd above]

mutual

def Node.pieces (s : Setting) (above : List Kind) : Node → List Piece
  | .mk id kind children =>
    let inside := above ++ [kind]
    match kind with
    | .document | .tableRow | .tableCell | .strong | .emphasis | .link _ =>
      piecesAll s inside children
    | .list start => itemPieces s inside start 0 children
    | .listItem => .plain inside s.options.bullet :: piecesAll s inside children
    | .heading _ | .paragraph => piecesAll s inside children ++ [.lineEnd inside]
    | .text value => [.plain above value]
    | .inlineCode value => [⟨above, .text .inlineCode value⟩]
    | .image url alt =>
      if Web.isAbsoluteUrl url then [⟨above, .picture url⟩] else [.plain above alt]
    | .code lang value => codePieces s above id lang value
    | .table source => tablePieces s above (.mk id (.table source) children)

def piecesAll (s : Setting) (above : List Kind) : List Node → List Piece
  | [] => []
  | n :: ns => n.pieces s above ++ piecesAll s above ns

def itemPieces (s : Setting) (above : List Kind) (start : Option Nat) (k : Nat) :
    List Node → List Piece
  | [] => []
  | .mk _ _ children :: ns =>
    .plain (above ++ [.listItem]) (s.itemMark (start.map (· + k))) ::
      (piecesAll s (above ++ [.listItem]) children ++ itemPieces s above start (k + 1) ns)

end

def Document.pieces (d : Document) (s : Setting) : List Piece := d.root.pieces s []

/-- What stands for a table that is left for later, given its ordinal and the look of its place. -/
abbrev TableView := Nat → Look → Node → Content

namespace Piece

def tableCount (p : Piece) : Nat :=
  match p.matter with
  | .table _ => 1
  | _ => 0

def spots (s : Setting) (table : TableView) (ordinal : Nat) (p : Piece) : Content :=
  match p.matter with
  | .text _ value => inLook (p.look s) (glyphsOf value)
  | .picture uri => inLook (p.look s) [.image uri s.imageSize]
  | .table node => table ordinal (p.look s) node

end Piece

/-- Pieces one behind the other; the tables among them are counted from `ordinal` on. -/
def render (s : Setting) (table : TableView) (ordinal : Nat) : List Piece → Content
  | [] => []
  | p :: ps => p.spots s table ordinal ++ render s table (ordinal + p.tableCount) ps

def markerView (s : Setting) : TableView := fun ordinal look _ =>
  inLook look (glyphsOf (placeholder s.fingerprint ordinal))

def tablesCounted : List Piece → Nat
  | [] => 0
  | p :: ps => p.tableCount + tablesCounted ps

theorem render_append (s : Setting) (table : TableView) (ordinal : Nat) (ps qs : List Piece) :
    render s table ordinal (ps ++ qs) =
      render s table ordinal ps ++ render s table (ordinal + tablesCounted ps) qs := by
  induction ps generalizing ordinal with
  | nil => rfl
  | cons p ps ih =>
    simp only [List.cons_append, render, ih, tablesCounted, List.append_assoc, Nat.add_assoc]

@[simp] theorem tablesCounted_append (ps qs : List Piece) :
    tablesCounted (ps ++ qs) = tablesCounted ps + tablesCounted qs := by
  induction ps with
  | nil => simp [tablesCounted]
  | cons p ps ih => simp [tablesCounted, ih]; omega

/-! Nodes further up only add to what is above each piece. -/

theorem assetPieces_under (s : Setting) (outer above : List Kind) (id : Nat) :
    assetPieces s (outer ++ above) id = (assetPieces s above id).map (Piece.under outer) := by
  unfold assetPieces
  split <;> rfl

theorem tablePieces_under (s : Setting) (outer above : List Kind) (node : Node) :
    tablePieces s (outer ++ above) node = (tablePieces s above node).map (Piece.under outer) := by
  unfold tablePieces
  split
  · rfl
  · split
    · exact assetPieces_under s outer above node.id
    · rw [List.map_flatMap]
      rfl

theorem codePieces_under (s : Setting) (outer above : List Kind) (id : Nat) (lang : Option String)
    (value : String) :
    codePieces s (outer ++ above) id lang value =
      (codePieces s above id lang value).map (Piece.under outer) := by
  unfold codePieces
  split
  · exact assetPieces_under s outer above id
  · rfl

mutual

theorem pieces_under (s : Setting) (outer above : List Kind) :
    (n : Node) → n.pieces s (outer ++ above) = (n.pieces s above).map (Piece.under outer)
  | .mk id kind children => by
    have hall := piecesAll_under s outer (above ++ [kind]) children
    cases kind with
    | list start =>
      simpa only [Node.pieces, List.append_assoc] using
        itemPieces_under s outer (above ++ [.list start]) start 0 children
    | listItem =>
      simp only [Node.pieces, List.append_assoc, hall, List.map_cons]
      rfl
    | heading _ | paragraph =>
      simp only [Node.pieces, List.append_assoc, hall, List.map_append]
      rfl
    | text value | inlineCode value => rfl
    | image url alt =>
      simp only [Node.pieces]
      split <;> rfl
    | code lang value =>
      simpa only [Node.pieces] using codePieces_under s outer above id lang value
    | table source => simpa only [Node.pieces] using tablePieces_under s outer above _
    | _ => simpa only [Node.pieces, List.append_assoc] using hall

theorem piecesAll_under (s : Setting) (outer above : List Kind) :
    (ns : List Node) →
      piecesAll s (outer ++ above) ns = (piecesAll s above ns).map (Piece.under outer)
  | [] => rfl
  | n :: ns => by
    simp only [piecesAll, List.map_append, pieces_under s outer above n,
      piecesAll_under s outer above ns]

theorem itemPieces_under (s : Setting) (outer above : List Kind) (start : Option Nat) (k : Nat) :
    (ns : List Node) → itemPieces s (outer ++ above) start k ns =
      (itemPieces s above start k ns).map (Piece.under outer)
  | [] => rfl
  | .mk _ _ children :: ns => by
    have hall := piecesAll_under s outer (above ++ [.listItem]) children
    simp only [itemPieces, List.map_cons, List.map_append, List.append_assoc, hall,
      itemPieces_under s outer above start (k + 1) ns]
    rfl

end

def Kind.lend (s : Setting) (kind : Kind) (l : Look) : Look :=
  match kind with
  | .strong => { l with text := overlay .isBold l.text }
  | .emphasis => { l with text := overlay .isItalic l.text }
  | .link url => { l with text := overlay (.linkTo url) l.text }
  | .heading depth =>
    { heading := some (.ofDepth depth)
      text :=
        if s.options.headingTextStyles then overlay (headingTextStyle depth) l.text else l.text }
  | _ => l

theorem findSome?_cons_or {α β : Type} (f : α → Option β) (a : α) (as : List α) :
    (a :: as).findSome? f = (f a).or (as.findSome? f) := by
  rw [List.findSome?_cons]
  cases f a <;> rfl

theorem headingDepth?_under (kind : Kind) (p : Piece) :
    (p.under [kind]).headingDepth? = kind.headingDepth?.or p.headingDepth? :=
  findSome?_cons_or _ _ _

theorem look_under (s : Setting) (kind : Kind) (p : Piece) :
    (p.under [kind]).look s = kind.lend s (p.look s) := by
  have htone : (p.under [kind]).tone = p.tone := rfl
  have habove : (p.under [kind]).above = kind :: p.above := rfl
  rw [Piece.look, Piece.look, htone, headingDepth?_under, habove, findSome?_cons_or]
  cases kind with
  | strong => simp [Kind.lend, overlay, TextStyle.isBold, Kind.headingDepth?, Kind.linkUrl?]
  | emphasis => simp [Kind.lend, overlay, TextStyle.isItalic, Kind.headingDepth?, Kind.linkUrl?]
  | link url => simp [Kind.lend, overlay, TextStyle.linkTo, Kind.headingDepth?, Kind.linkUrl?]
  | heading depth =>
    cases h : s.options.headingTextStyles <;>
      simp [Kind.lend, overlay, h, headingTextStyle, Kind.headingDepth?, Kind.linkUrl?]
  | _ => simp [Kind.lend, Kind.headingDepth?, Kind.linkUrl?]

theorem mapLook_inLook (f : Look → Look) (look : Look) (gs : List Glyph) :
    (inLook look gs).map (Spot.mapLook f) = inLook (f look) gs := by
  simp [inLook, Spot.mapLook, Function.comp_def]

theorem render_under (s : Setting) (kind : Kind) (ordinal : Nat) (ps : List Piece) :
    render s (markerView s) ordinal (ps.map (Piece.under [kind])) =
      (render s (markerView s) ordinal ps).map (Spot.mapLook (kind.lend s)) := by
  induction ps generalizing ordinal with
  | nil => rfl
  | cons p ps ih =>
    have hcount : (p.under [kind]).tableCount = p.tableCount := rfl
    have hspots : (p.under [kind]).spots s (markerView s) ordinal =
        (p.spots s (markerView s) ordinal).map (Spot.mapLook (kind.lend s)) := by
      have hlook := look_under s kind p
      obtain ⟨above, matter⟩ := p
      cases matter <;>
        simp only [Piece.spots, Piece.under, markerView, mapLook_inLook] at hlook ⊢ <;>
        rw [hlook]
    simp only [List.map_cons, render, List.map_append, hcount, hspots, ih]

end Folio
