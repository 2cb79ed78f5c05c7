import Folio.Proofs.Document.Prose
import Folio.Proofs.Draft.Lines
import Folio.Proofs.Table.Refilling
/-!
Each heading and each paragraph of a text is drafted as one paragraph: its only line feed is the one that
ends it. A cell that something was written into is not taken for a blank one later. Both can fail only
where a text has a line feed of its own (`ofMarkdown_oneParagraph`).
-/
set_option autoImplicit false

namespace Folio

open Edit Remote
open Markdown (SpacesInCode FeedInText)
open Node (preorderAll)

def Node.IsOneLine (n : Node) : Prop := n.kind.isTablePart = true ∧ '\n' ∉ n.kind.ownText.toList

/-- No text in the node goes on behind a line feed. -/
def Node.Unbroken (n : Node) : Prop := ∀ m ∈ n.preorder, '\n' ∉ m.kind.ownText.toList

def Piece.isOneLine (p : Piece) : Bool :=
  match p.matter with
  | .text _ value => !value.toList.contains '\n'
  | .picture _ => true
  | .table _ => false

section

variable {s : Setting} {ps : List Piece} {n : Node}

theorem char_mem_glyphsOf {value : String} {c : Char} :
    Glyph.char c ∈ glyphsOf value ↔ c ∈ value.toList := by
  rw [← mem_chars_iff, glyphsOf, chars_glyphsOfChars]

theorem feed_not_mem_glyphsIn (h : ∀ p ∈ ps, p.isOneLine = true) (ordinal : Nat) :
    Glyph.char '\n' ∉ glyphsIn s ordinal ps := by
  induction ps generalizing ordinal with
  | nil => simp [glyphsIn, render]
  | cons p ps ih =>
    obtain ⟨hp, hps⟩ := List.forall_mem_cons.1 h
    have hrest := ih hps (ordinal + tablesCounted [p])
    rw [← List.singleton_append, glyphsIn_append, List.mem_append]
    refine not_or.2 ⟨?_, hrest⟩
    obtain ⟨above, matter⟩ := p
    cases matter with
    | text tone value =>
      have hglyphs : glyphsIn s ordinal [⟨above, .text tone value⟩] = glyphsOf value := by
        simp [glyphsIn, render, Piece.spots, inLook, Function.comp_def]
      rw [hglyphs, char_mem_glyphsOf]
      simpa [Piece.isOneLine] using hp
    | picture uri => simp [glyphsIn, render, Piece.spots, inLook]
    | table node => cases hp

mutual

theorem oneLine_pieces (s : Setting) (above : List Kind) : (n : Node) →
    (∀ m ∈ n.preorder, m.IsOneLine) → ∀ p ∈ n.pieces s above, p.isOneLine = true
  | .mk id kind children, h => by
    rw [Node.preorder, List.forall_mem_cons] at h
    obtain ⟨⟨hpart, htext⟩, hbelow⟩ := h
    have hall := oneLine_piecesAll s (above ++ [kind]) children hbelow
    cases kind with
    | document | heading | paragraph | list | listItem | code | table => cases hpart
    | text value | inlineCode value =>
      simpa [Node.pieces, Piece.isOneLine, Piece.plain, Kind.ownText] using htext
    | image url alt =>
      rw [Node.pieces]
      split
      · simp [Piece.isOneLine]
      · simpa [Piece.isOneLine, Piece.plain, Kind.ownText] using htext
    | _ => exact hall

theorem oneLine_piecesAll (s : Setting) (above : List Kind) : (ns : List Node) →
    (∀ m ∈ preorderAll ns, m.IsOneLine) → ∀ p ∈ piecesAll s above ns, p.isOneLine = true
  | [], _ => by simp [piecesAll]
  | n :: ns, h => by
    rw [preorderAll, List.forall_mem_append] at h
    rw [piecesAll]
    exact List.forall_mem_append.2
      ⟨oneLine_pieces s above n h.1, oneLine_piecesAll s above ns h.2⟩

end

mutual

theorem mem_cellTexts {value : String} {outer : List Kind} (above : List Kind) : (n : Node) →
    (outer, value) ∈ n.cellTexts above → ∃ m ∈ n.preorder, value = m.kind.ownText
  | .mk id kind children, h => by
    rw [Node.preorder]
    have hall (hmem : (outer, value) ∈ cellTextsAll (above ++ [kind]) children) :
        ∃ m ∈ Node.mk id kind children :: preorderAll children, value = m.kind.ownText := by
      obtain ⟨m, hm, hvalue⟩ := mem_cellTextsAll (above ++ [kind]) children hmem
      exact ⟨m, List.mem_cons_of_mem _ hm, hvalue⟩
    cases kind with
    | text | inlineCode =>
      obtain ⟨-, rfl⟩ := Prod.mk.inj (List.mem_singleton.1 h)
      exact ⟨_, List.mem_cons_self, rfl⟩
    | _ => exact hall h

theorem mem_cellTextsAll {value : String} {outer : List Kind} (above : List Kind) : (ns : List Node) →
    (outer, value) ∈ cellTextsAll above ns → ∃ m ∈ preorderAll ns, value = m.kind.ownText
  | [], h => nomatch h
  | n :: ns, h => by
    rw [preorderAll]
    rcases List.mem_append.1 h with h | h
    · obtain ⟨m, hm, hvalue⟩ := mem_cellTexts above n h
      exact ⟨m, List.mem_append_left _ hm, hvalue⟩
    · obtain ⟨m, hm, hvalue⟩ := mem_cellTextsAll above ns h
      exact ⟨m, List.mem_append_right _ hm, hvalue⟩

end

theorem feed_not_mem_cellText (h : n.Unbroken) :
    '\n' ∉ n.cellText := by
  rw [n.cellText_eq, mem_chars_iff, Node.cellContent, glyphs, List.map_flatMap, List.mem_flatMap]
  rintro ⟨⟨outer, value⟩, hmem, hfeed⟩
  obtain ⟨m, hm, rfl⟩ := mem_cellTexts [] n hmem
  have hglyphs := glyphs_inLook (cellLook outer) (glyphsOf m.kind.ownText)
  rw [glyphs] at hglyphs
  dsimp only at hfeed
  rw [hglyphs, char_mem_glyphsOf] at hfeed
  exact h m hm hfeed

/-- What is drafted for a block whose parts stand on one line: that line. -/
theorem emit_oneLine {id : Nat} {kind : Kind} {children : List Node}
    (hkind : kind = .paragraph ∨ ∃ depth, kind = .heading depth)
    (h : ∀ m ∈ preorderAll children, m.IsOneLine) (s : Setting) (d : Draft) :
    ∃ us plans gs, d.Puts us plans ((Node.mk id kind children).emit s d) ∧
      glyphs us = gs ++ [.char '\n'] ∧ .char '\n' ∉ gs := by
  have hpieces : (Node.mk id kind children).pieces s [] =
      piecesAll s [kind] children ++ [.lineEnd [kind]] := by
    rcases hkind with rfl | ⟨depth, rfl⟩ <;> rfl
  have hfeed : glyphsOf "\n" = [.char '\n'] := by decide
  refine ⟨_, _, glyphsIn s d.tables.length (piecesAll s [kind] children),
    emit_writes s (.mk id kind children) d, ?_,
    feed_not_mem_glyphsIn (oneLine_piecesAll s [kind] children h) _⟩
  have hglyphs := glyphsIn_append s d.tables.length (piecesAll s [kind] children) [.lineEnd [kind]]
  rw [Piece.lineEnd, glyphsIn_plain, hfeed] at hglyphs
  rw [hpieces]
  exact hglyphs

/-- Writing a cell whose texts stand on one line leaves something to see in it. -/
theorem turns_oneLineCell (h : n.Unbroken) {gs : List Glyph} (hgs : Closed gs) (p : Nat) :
    ∃ gs', Turns (p + 1) (n.cellRequests (p + 1)) gs gs' ∧
      (n.cellRequests (p + 1) ≠ [] → (cellAt p gs').isBlank = false) := by
  refine ⟨glyphs n.cellContent ++ gs, fun x hx => ⟨n.cellContent ++ x,
    (rewrites_cellContent n (p + 1)).appendRight x, by rw [glyphs_append, hx]⟩, fun hwritten => ?_⟩
  obtain ⟨c, hc⟩ := List.exists_mem_of_ne_nil n.cellText
    fun hnil => hwritten (Node.cellRequests_of_cellText_eq_nil hnil (p + 1))
  have hline : c ≠ '\n' := by
    rintro rfl
    exact feed_not_mem_cellText h hc
  rw [n.cellText_eq, mem_chars_iff] at hc
  rw [(Closed.append_plain (isPlain_cellContent n) hgs).isBlank_cellAt, List.all_append,
    List.all_eq_false.2 ⟨_, hc, fun h => hline (beq_iff_eq.1 h)⟩, Bool.false_and]

end

/-- No inline code has a line feed, and texts and descriptions of images have one only if the parser reports
it in a text. Where there is none, each paragraph and each heading is drafted as glyphs of which the last
is a line feed and no other is, and a cell that anything is written into is blank no more. -/
theorem ofMarkdown_oneParagraph [Markdown.Parser] {markdown : String} (hcode : SpacesInCode markdown) :
    (∀ n ∈ (Document.ofMarkdown markdown).nodes, ∀ value, n.kind = .inlineCode value →
      '\n' ∉ value.toList) ∧
    ((∃ n ∈ (Document.ofMarkdown markdown).nodes, '\n' ∈ n.kind.ownText.toList) ↔ FeedInText markdown) ∧
    ∀ n ∈ (Document.ofMarkdown markdown).nodes, n.Unbroken →
      (n.kind = .paragraph ∨ (∃ depth, n.kind = .heading depth) →
        ∀ (s : Setting) (d : Draft), ∃ us plans gs, d.Puts us plans (n.emit s d) ∧
          glyphs us = gs ++ [.char '\n'] ∧ .char '\n' ∉ gs) ∧
      (n.kind = .tableCell →
        ∀ (p : Nat) (gs : List Glyph), Closed gs →
          ∃ gs', Turns (p + 1) (n.cellRequests (p + 1)) gs gs' ∧
            (n.cellRequests (p + 1) ≠ [] → (cellAt p gs').isBlank = false)) := by
  refine ⟨fun n hn value hkind => ?_, mem_ownText_iff '\n', fun n hn hunbroken =>
    ⟨fun hkind s d => ?_, fun _ p gs hgs => turns_oneLineCell hunbroken hgs p⟩⟩
  · exact hcode value (List.mem_filterMap.2 ⟨_, code_mem_events hn hkind, rfl⟩)
  · have houtlined := (outlined_ofMarkdown markdown).below hn
    obtain ⟨id, kind, children⟩ := n
    rw [Node.kind_mk] at hkind
    rw [Node.preorder, Outlined.cons] at houtlined
    have hchildren : ∀ c ∈ children, c.kind.isTablePart = true := by
      rw [← List.all_eq_true]
      rcases hkind with rfl | ⟨depth, rfl⟩ <;> exact houtlined.1
    refine emit_oneLine hkind (fun m hm => ?_) s d
    exact ⟨parts_preorderAll children hchildren houtlined.2 m hm,
      hunbroken m (by rw [Node.preorder]; exact List.mem_cons_of_mem _ hm)⟩

theorem ofMarkdown_oneParagraph_breaks :
    ∃ n ∈ (Document.ofMarkdown "a &#38; `b\nc`\nd").nodes, n.kind = .paragraph ∧
      (Document.ofMarkdown "a &#38; `b\nc`\nd").nodes.map Node.kind =
        [.document, .paragraph, .text "a & ", .inlineCode "b c", .text " d"] ∧
      ∀ (s : Setting) (d : Draft), ∃ us plans gs, d.Puts us plans (n.emit s d) ∧
        glyphs us = gs ++ [.char '\n'] ∧ .char '\n' ∉ gs := by
  have hkinds : (Document.ofMarkdown "a &#38; `b\nc`\nd").nodes.map Node.kind =
      [.document, .paragraph, .text "a & ", .inlineCode "b c", .text " d"] := by decide +kernel
  have hcodes : (Markdown.events "a &#38; `b\nc`\nd").filterMap Markdown.EventOf.code? = ["b c"] := by
    decide +kernel
  obtain ⟨n, hn, hkind⟩ : ∃ n ∈ (Document.ofMarkdown "a &#38; `b\nc`\nd").nodes, n.kind = .paragraph :=
    List.mem_map.1 (hkinds ▸ by simp)
  obtain ⟨-, -, hdrafted⟩ := @ofMarkdown_oneParagraph _ "a &#38; `b\nc`\nd" (by simp [SpacesInCode, hcodes])
  have hunbroken : n.Unbroken := by
    intro m hm
    have hall : ∀ kind ∈ (Document.ofMarkdown "a &#38; `b\nc`\nd").nodes.map Node.kind,
        '\n' ∉ kind.ownText.toList := by
      rw [hkinds]
      decide
    rw [Document.nodes, Node.descendants_eq_preorder] at hn hall
    exact hall _ (List.mem_map_of_mem (preorder_subset _ hn hm))
  exact ⟨n, hn, hkind, hkinds, (hdrafted n hn hunbroken).1 (.inl hkind)⟩

/-- A reference to a line feed makes two paragraphs of one. -/
theorem feedReference_twoParagraphs :
    (Document.ofMarkdown "a&#10;b").nodes.map Node.kind = [.document, .paragraph, .text "a\nb"] ∧
      requestChars ((Document.ofMarkdown "a&#10;b").compile .empty .default).requests =
        "a\nb\n".toList := by
  constructor
  · decide +kernel
  · decide +kernel

end Folio
