import Folio.Markdown.Reader
import Folio.Proofs.Draft.ItemTurns
/-!
Where the lines of a draft end. Every block that is drafted ends its last line, and an item has no line
end of its own: its mark stands open until a block of the item is drafted behind it. So what is drafted
for an item are whole lines, and behind them the marks that no block has closed (`compile_itemLines`).
-/
set_option autoImplicit false

namespace Folio

open Edit Remote
open Node (preorderAll)

namespace Remote

/-- Nothing, or something that ends with a line feed. -/
def EndsLine (gs : List Glyph) : Prop := ∀ g ∈ gs.getLast?, g = .char '\n'

instance (gs : List Glyph) : Decidable (EndsLine gs) :=
  inferInstanceAs (Decidable (∀ g ∈ gs.getLast?, g = .char '\n'))

/-- Whole lines, and then these marks. -/
def LeavesOpen (marks : String) (gs : List Glyph) : Prop :=
  ∃ lines, EndsLine lines ∧ gs = lines ++ glyphsOf marks

theorem LeavesOpen.nil : LeavesOpen "" [] := ⟨[], by simp [EndsLine], by simp⟩

theorem LeavesOpen.mark {marks : String} {gs : List Glyph} (h : LeavesOpen marks gs) (mark : String) :
    LeavesOpen (marks ++ mark) (gs ++ glyphsOf mark) := by
  obtain ⟨lines, hlines, rfl⟩ := h
  exact ⟨lines, hlines, by simp [glyphsOf, glyphsOfChars]⟩

theorem leavesOpen_lineEnd (gs : List Glyph) : LeavesOpen "" (gs ++ [.char '\n']) :=
  ⟨gs ++ [.char '\n'], by simp [EndsLine], by simp⟩

/-- The marks decide whether a line is left open. -/
theorem LeavesOpen.endsLine_iff {marks : String} {gs : List Glyph} (h : LeavesOpen marks gs) :
    EndsLine gs ↔ ∀ c ∈ marks.toList.getLast?, c = '\n' := by
  obtain ⟨lines, hlines, rfl⟩ := h
  rw [glyphsOf]
  rcases List.eq_nil_or_concat marks.toList with hnil | ⟨front, c, hconcat⟩
  · rw [hnil]
    simpa [glyphsOfChars] using hlines
  · rw [hconcat]
    -- A line feed takes one position, so what ends with one does not end with a second half.
    have hmarks : glyphsOfChars (front.concat c) = glyphsOfChars front ++ glyphsOfChar c := by
      simp [glyphsOfChars]
    have hlast : (lines ++ glyphsOfChars (front.concat c)).getLast? = (glyphsOfChar c).getLast? := by
      rw [hmarks, ← List.append_assoc, List.getLast?_append, glyphsOfChar, List.getLast?_cons,
        Option.some_or]
    rw [EndsLine, hlast, glyphsOfChar, Text.charUnits]
    split
    · simp
    · have hc : c ≠ '\n' := by rintro rfl; contradiction
      simp [hc]

end Remote

/-- A diagram, or a table that is drafted as a picture, leaves nothing if it has no picture; the table
must also have no rows. -/
def Node.isSilent (s : Setting) (n : Node) : Bool :=
  match n.kind with
  | .code lang _ => s.isDiagram lang && (s.assets.get? n.id).isNone
  | .table _ => s.options.tableStrategy == .image && (s.assets.get? n.id).isNone &&
      n.children.isEmpty
  | _ => false

mutual

/-- The marks that stand open behind a block, those before it being `marks`. -/
def Node.openMarks (s : Setting) (marks : String) : Node → String
  | .mk id kind children =>
    match kind with
    | .list start => openMarksOfItems s start marks children
    | _ => if (Node.mk id kind children).isSilent s then marks else ""

def openMarksOfAll (s : Setting) (marks : String) : List Node → String
  | [] => marks
  | n :: ns => openMarksOfAll s (n.openMarks s marks) ns

/-- Each item comes with a mark of its own. -/
def openMarksOfItems (s : Setting) (number : Option Nat) (marks : String) : List Node → String
  | [] => marks
  | .mk _ _ children :: ns =>
    openMarksOfItems s (number.map (· + 1))
      (openMarksOfAll s (marks ++ s.itemMark number) children) ns

end

def glyphsIn (s : Setting) (ordinal : Nat) (ps : List Piece) : List Glyph :=
  (render s (markerView s) ordinal ps).map Spot.glyph

section

variable {s : Setting} {ordinal : Nat} {marks : String} {gs : List Glyph}

theorem glyphsIn_append (s : Setting) (ordinal : Nat) (ps qs : List Piece) :
    glyphsIn s ordinal (ps ++ qs) =
      glyphsIn s ordinal ps ++ glyphsIn s (ordinal + tablesCounted ps) qs := by
  rw [glyphsIn, render_append, List.map_append]
  rfl

theorem glyphsIn_plain (s : Setting) (ordinal : Nat) (above : List Kind) (value : String) :
    glyphsIn s ordinal [.plain above value] = glyphsOf value := by
  simp [glyphsIn, render, Piece.spots, Piece.plain, inLook, Function.comp_def]

/-- A line end closes all marks before it. -/
theorem leavesOpen_pieces (ps : List Piece) (above : List Kind) :
    LeavesOpen "" (gs ++ glyphsIn s ordinal (ps ++ [.lineEnd above])) := by
  have hfeed : glyphsOf "\n" = [.char '\n'] := by decide
  rw [glyphsIn_append, Piece.lineEnd, glyphsIn_plain, hfeed, ← List.append_assoc]
  exact leavesOpen_lineEnd _

theorem leavesOpen_asset (h : LeavesOpen marks gs) (above : List Kind) (id : Nat) :
    LeavesOpen (if (s.assets.get? id).isNone then marks else "")
      (gs ++ glyphsIn s ordinal (assetPieces s above id)) := by
  rw [assetPieces]
  cases s.assets.get? id with
  | none => simpa [glyphsIn, render] using h
  | some uri => exact leavesOpen_pieces [⟨above, .picture uri⟩] above

theorem leavesOpen_rows (h : LeavesOpen marks gs) (above : List Kind) (rows : List Node) :
    LeavesOpen (if rows.isEmpty then marks else "") (gs ++ glyphsIn s ordinal
      (rows.flatMap fun row => [.plain above (rowText row), .lineEnd above])) := by
  rcases List.eq_nil_or_concat rows with rfl | ⟨front, last, rfl⟩
  · simpa [glyphsIn, render] using h
  · have hlast := @leavesOpen_pieces s ordinal gs
      (front.flatMap (fun row => [.plain above (rowText row), .lineEnd above]) ++
        [.plain above (rowText last)]) above
    simpa using hlast

end

/-! The recursion over the tree: a block takes the marks before it to those behind it. -/

mutual

theorem leavesOpen_node (s : Setting) (above : List Kind) {marks : String} {gs : List Glyph}
    (ordinal : Nat) :
    (n : Node) → n.kind.isBlock = true → Outlined n.preorder → LeavesOpen marks gs →
      LeavesOpen (n.openMarks s marks) (gs ++ glyphsIn s ordinal (n.pieces s above))
  | .mk id kind children, hblock, houtlined, h => by
    rw [Node.preorder, Outlined.cons] at houtlined
    cases kind with
    | list start =>
      have hitems : ∀ n ∈ children, n.kind = .listItem := by
        simpa [Node.isOutlined] using houtlined.1
      have hlist := leavesOpen_items s (above ++ [.list start]) ordinal start 0 children hitems
        houtlined.2 h
      simpa [Node.openMarks, Node.pieces] using hlist
    | heading depth => exact leavesOpen_pieces _ _
    | paragraph => exact leavesOpen_pieces _ _
    | code lang value =>
      rw [Node.openMarks, Node.pieces, codePieces]
      · cases hlang : s.isDiagram lang with
        | true => simpa [Node.isSilent, hlang] using leavesOpen_asset h above id
        | false =>
          simpa [Node.isSilent, hlang] using
            leavesOpen_pieces [⟨above, .text .codeBlock value⟩] above
      · nofun
    | table source =>
      rw [Node.openMarks, Node.pieces, tablePieces]
      · cases hstrategy : s.options.tableStrategy with
        | native =>
          simpa [Node.isSilent, hstrategy] using
            leavesOpen_pieces [⟨above, .table (.mk id (.table source) children)⟩] above
        | image =>
          have hasset := @leavesOpen_asset s ordinal marks gs h above id
          cases hid : s.assets.get? id with
          | none => simpa [Node.isSilent, hstrategy, hid] using leavesOpen_rows h above children
          | some uri => simpa [Node.isSilent, hstrategy, hid] using hasset
      · nofun
    | _ => cases hblock

theorem leavesOpen_all (s : Setting) (above : List Kind) {marks : String} {gs : List Glyph}
    (ordinal : Nat) :
    (ns : List Node) → (∀ n ∈ ns, n.kind.isBlock = true) → Outlined (preorderAll ns) →
      LeavesOpen marks gs →
      LeavesOpen (openMarksOfAll s marks ns) (gs ++ glyphsIn s ordinal (piecesAll s above ns))
  | [], _, _, h => by simpa [openMarksOfAll, piecesAll, glyphsIn, render] using h
  | n :: ns, hblocks, houtlined, h => by
    rw [preorderAll, Outlined.append] at houtlined
    obtain ⟨hblock, hblocks⟩ := List.forall_mem_cons.1 hblocks
    have hfirst := leavesOpen_node s above ordinal n hblock houtlined.1 h
    rw [openMarksOfAll, piecesAll, glyphsIn_append, ← List.append_assoc]
    exact leavesOpen_all s above _ ns hblocks houtlined.2 hfirst

theorem leavesOpen_items (s : Setting) (above : List Kind) {marks : String} {gs : List Glyph}
    (ordinal : Nat) (start : Option Nat) (k : Nat) :
    (ns : List Node) → (∀ n ∈ ns, n.kind = .listItem) → Outlined (preorderAll ns) →
      LeavesOpen marks gs →
      LeavesOpen (openMarksOfItems s (start.map (· + k)) marks ns)
        (gs ++ glyphsIn s ordinal (itemPieces s above start k ns))
  | [], _, _, h => by simpa [openMarksOfItems, itemPieces, glyphsIn, render] using h
  | .mk id kind children :: ns, hitems, houtlined, h => by
    obtain ⟨hkind, hothers⟩ := List.forall_mem_cons.1 hitems
    obtain rfl : kind = .listItem := hkind
    rw [preorderAll, Outlined.append, Node.preorder, Outlined.cons] at houtlined
    have hblocks : ∀ n ∈ children, n.kind.isBlock = true := by
      simpa [Node.isOutlined] using houtlined.1.1
    have hnext : (start.map (· + k)).map (· + 1) = start.map (· + (k + 1)) := by
      cases start <;> rfl
    have hmark := h.mark (s.itemMark (start.map (· + k)))
    have hitem := leavesOpen_all s (above ++ [.listItem]) ordinal children hblocks houtlined.1.2 hmark
    have hrest := leavesOpen_items s above
      (ordinal + tablesCounted (piecesAll s (above ++ [.listItem]) children)) start (k + 1) ns
      hothers houtlined.2 hitem
    rw [openMarksOfItems, hnext, itemPieces, ← List.singleton_append, glyphsIn_append,
      glyphsIn_append, glyphsIn_plain, ← List.append_assoc, ← List.append_assoc]
    exact hrest

end

/-- The marks that stand open behind an item, its own included. -/
def ItemTurn.openMarks (s : Setting) (t : ItemTurn) : String :=
  openMarksOfItems s t.number "" [t.item]

/-- Every item of a text is drafted in a turn of its own, with the number that its place in the list gives
it, behind what was drafted before it. What is drafted in it are whole lines and then the marks that no
block closes, so it is empty or ends with a line feed exactly if these marks are or do. -/
theorem compile_itemLines [Markdown.Parser] (markdown : String) (assets : AssetMap)
    (options : ExportOptions) :
    let doc := Document.ofMarkdown markdown
    let s : Setting := ⟨fingerprint markdown, assets, options⟩
    (doc.itemTurns s).map ItemTurn.item = items doc.nodes ∧
    (∀ list ∈ doc.nodes, ∀ start, list.kind = .list start → ∀ k item, list.children[k]? = some item →
      ∃ before, ⟨item, start.map (· + k), before⟩ ∈ doc.itemTurns s) ∧
    ∀ t ∈ doc.itemTurns s,
      (t.after s).requests <+: (doc.compile assets options).requests ∧
      ∃ us plans, t.before.Puts us plans (t.after s) ∧
        LeavesOpen (t.openMarks s) (us.map Spot.glyph) ∧
        (EndsLine (us.map Spot.glyph) ↔ ∀ c ∈ (t.openMarks s).toList.getLast?, c = '\n') := by
  intro doc s
  have houtlined : Outlined doc.nodes := outlined_ofMarkdown markdown
  have hbelow : Outlined doc.root.preorder := by
    rwa [Document.nodes, Node.descendants_eq_preorder] at houtlined
  have hroot : doc.root.kind ≠ .listItem := Kind.noConfusion
  have hitems : (doc.itemTurns s).map ItemTurn.item = items doc.nodes := by
    rw [Document.nodes, Node.descendants_eq_preorder]
    exact map_item_itemTurns s doc.root hroot hbelow .empty
  refine ⟨hitems, fun list hlist start hkind k item hitem => ?_, fun t ht => ?_⟩
  · rw [Document.nodes, Node.descendants_eq_preorder] at hlist
    exact itemTurns_number hkind hitem doc.root hroot hbelow hlist .empty
  · have hmem : t.item ∈ items doc.nodes := hitems ▸ List.mem_map_of_mem ht
    obtain ⟨hnode, hkind⟩ := List.mem_filter.1 hmem
    have hself : Outlined (preorderAll [t.item]) := by
      simpa [preorderAll] using houtlined.below hnode
    have hopen := leavesOpen_items s [] t.before.tables.length t.number 0 [t.item]
      (by simpa using hkind) hself .nil
    simp only [Nat.add_zero, Option.map_id_fun', id_eq] at hopen
    exact ⟨itemTurns_requests doc.root .empty ht, _, _, writes_emitItems s t.number [t.item] t.before,
      hopen, hopen.endsLine_iff⟩

/-- The last item of an item has nothing behind its mark, so both leave it open. The outer one is the
first of two. -/
theorem compile_itemLines_nested :
    ∃ t ∈ (Document.ofMarkdown "1. a\n\n   -\n2. b").itemTurns
        ⟨fingerprint "1. a\n\n   -\n2. b", .empty, .default⟩, t.number = some 1 ∧ t.item.id = 2 ∧
      ∃ us plans, t.before.Puts us plans
        (t.after ⟨fingerprint "1. a\n\n   -\n2. b", .empty, .default⟩) ∧
        LeavesOpen "• " (us.map Spot.glyph) := by
  have hfound : ((Document.ofMarkdown "1. a\n\n   -\n2. b").itemTurns
      ⟨fingerprint "1. a\n\n   -\n2. b", .empty, .default⟩).head?.map (fun t => (t.number, t.item.id,
        t.openMarks ⟨fingerprint "1. a\n\n   -\n2. b", .empty, .default⟩)) = some (some 1, 2, "• ") := by
    decide +kernel
  obtain ⟨t, ht, heq⟩ := Option.map_eq_some_iff.1 hfound
  obtain ⟨hnumber, hrest⟩ := Prod.ext_iff.1 heq
  obtain ⟨hid, hmarks⟩ := Prod.ext_iff.1 hrest
  have hmem := List.mem_of_mem_head? ht
  obtain ⟨-, us, plans, hputs, hopen, -⟩ :=
    (compile_itemLines "1. a\n\n   -\n2. b" .empty .default).2.2 t hmem
  change ItemTurn.openMarks _ t = "• " at hmarks
  rw [hmarks] at hopen
  exact ⟨t, hmem, hnumber, hid, us, plans, hputs, hopen⟩

/-- Not every item ends its line: what comes behind this one goes on with it. -/
theorem bareItem_leavesOpen :
    ∃ t ∈ (Document.ofMarkdown "-\n- b").itemTurns ⟨fingerprint "-\n- b", .empty, .default⟩,
      ∃ us plans, t.before.Puts us plans (t.after ⟨fingerprint "-\n- b", .empty, .default⟩) ∧
        ¬EndsLine (us.map Spot.glyph) := by
  have hfound : ((Document.ofMarkdown "-\n- b").itemTurns
      ⟨fingerprint "-\n- b", .empty, .default⟩).head?.map
        (fun t => (t.number, t.item.children.length)) = some (none, 0) := by decide +kernel
  obtain ⟨⟨⟨id, kind, children⟩, number, before⟩, ht, heq⟩ := Option.map_eq_some_iff.1 hfound
  obtain ⟨rfl, hlength⟩ := Prod.ext_iff.1 heq
  obtain rfl : children = [] := List.eq_nil_of_length_eq_zero hlength
  refine ⟨_, List.mem_of_mem_head? ht, _, _, Draft.puts_insert before "• ", ?_⟩
  decide +kernel

end Folio
