import Folio.Markdown.Event
import Folio.Markdown.InlineReader
import Folio.Markdown.Nesting

set_option autoImplicit false

namespace Folio.Markdown

mutual

def Inline.events : Inline → List (EventOf Extent)
  | .text value => [.text (String.ofList value)]
  | .code value => [.code (String.ofList value)]
  | .html => [.html]
  | .softBreak => [.softBreak]
  | .hardBreak => [.hardBreak]
  | .emphasis children => span .emphasis (inlineEvents children)
  | .strong children => span .strong (inlineEvents children)
  | .strikethrough children => span .strikethrough (inlineEvents children)
  | .link url children => span (.link (String.ofList url)) (inlineEvents children)
  | .image url children => span (.image (String.ofList url)) (inlineEvents children)

def inlineEvents : List Inline → List (EventOf Extent)
  | [] => []
  | i :: rest => i.events ++ inlineEvents rest

end

structure Reading where
  source : List Char
  definitions : List Definition

def Reading.leaf (r : Reading) (closed : Bool) (text : List Char) : List (EventOf Extent) :=
  inlineEvents (readInlines false closed r.definitions text)

def Reading.row (r : Reading) (tag : TagOf Extent) (cells : List (List Char)) :
    List (EventOf Extent) :=
  span tag (cells.flatMap fun cell =>
    span .tableCell (inlineEvents (readInlines true false r.definitions cell)))

def Reading.rows (r : Reading) : List (List (List Char)) → List (EventOf Extent)
  | [] => []
  | header :: rows => r.row .tableHead header ++ rows.flatMap (r.row .tableRow)

def Reading.extent (r : Reading) (start stop : Nat) : Extent :=
  ⟨Text.bytes (r.source.take start), Text.bytes (r.source.take stop)⟩

mutual

/-- The paragraphs of a tight item are not marked as such. -/
def Block.events (r : Reading) (tight : Bool) : Block → List (EventOf Extent)
  | .paragraph text =>
    if tight then r.leaf false text else span .paragraph (r.leaf false text)
  | .heading level closed text => span (.heading level) (r.leaf closed text)
  | .fenced info text => span (.fenced (String.ofList info)) [.text (String.ofList text)]
  | .indented text => span .indented [.text (String.ofList text)]
  | .html => span .htmlBlock [.html]
  | .rule => [.rule]
  | .table start stop rows => span (.table (r.extent start stop)) (r.rows rows)
  | .quote blocks => span .quote (blockEvents r false blocks)
  | .list start tight items => span (.list start) (blockEvents r tight items)
  | .item blocks => span .item (blockEvents r tight blocks)

def blockEvents (r : Reading) (tight : Bool) : List Block → List (EventOf Extent)
  | [] => []
  | b :: rest => b.events r tight ++ blockEvents r tight rest

end

def readEvents (markdown : String) : List (EventOf Extent) :=
  let source := markdown.toList
  let (blocks, definitions) := readBlocks source
  blockEvents ⟨source, definitions⟩ false blocks

mutual

theorem nested_inline {l : Level} (hl : l = .inline ∨ l = .flow) : (i : Inline) → Nested l i.events
  | .text _ | .code _ | .html | .softBreak | .hardBreak => by
    rcases hl with rfl | rfl <;> exact .leaf rfl rfl .nil
  | .emphasis cs | .strong cs | .strikethrough cs | .link _ cs | .image _ cs => by
    rw [Inline.events]
    have hinner := nested_inlines (.inl rfl) cs
    rcases hl with rfl | rfl <;> exact .one _ rfl hinner

theorem nested_inlines {l : Level} (hl : l = .inline ∨ l = .flow) :
    (is : List Inline) → Nested l (inlineEvents is)
  | [] => .nil
  | i :: is => by
    rw [inlineEvents]
    exact (nested_inline hl i).append (nested_inlines hl is)

end

theorem nested_cell (r : Reading) (cell : List Char) :
    Nested .cells (span .tableCell (inlineEvents (readInlines true false r.definitions cell))) :=
  .one .tableCell rfl (nested_inlines (.inl rfl) _)

theorem nested_row (r : Reading) {tag : TagOf Extent} (htag : Level.rows.takes (.start tag) = true)
    (hinside : tag.inside = .cells) (cells : List (List Char)) : Nested .rows (r.row tag cells) := by
  refine .one tag htag ?_
  rw [hinside]
  exact .flatMap (nested_cell r) cells

theorem nested_rows (r : Reading) : (rows : List (List (List Char))) → Nested .rows (r.rows rows)
  | [] => .nil
  | header :: rows => (nested_row r rfl rfl header).append (.flatMap (nested_row r rfl rfl) rows)

def Level.of (areItems : Bool) : Level := if areItems then .items else .flow

mutual

theorem nested_block (r : Reading) (tight : Bool) : (b : Block) → b.Nested →
    Nested (.of b.isItem) (b.events r tight)
  | .paragraph text, _ => by
    rw [Block.events]
    split
    · exact nested_inlines (.inr rfl) _
    · exact .one .paragraph rfl (nested_inlines (.inl rfl) _)
  | .heading level .., _ => .one (.heading level) rfl (nested_inlines (.inl rfl) _)
  | .fenced info _, _ => .one (.fenced _) rfl (.leaf rfl rfl .nil)
  | .indented _, _ => .one .indented rfl (.leaf rfl rfl .nil)
  | .html, _ => .one .htmlBlock rfl (.leaf rfl rfl .nil)
  | .rule, _ => .leaf rfl rfl .nil
  | .table _ _ rows, _ => .one (.table _) rfl (nested_rows r rows)
  | .quote blocks, h => by
    rw [Block.events]
    exact .one .quote rfl (nested_blocks r false false blocks h.inner)
  | .list _ tight' items, h => by
    rw [Block.events]
    exact .one (.list _) rfl (nested_blocks r tight' true items h.inner)
  | .item blocks, h => by
    rw [Block.events]
    exact .one .item rfl (nested_blocks r tight false blocks h.inner)

theorem nested_blocks (r : Reading) (tight areItems : Bool) : (bs : List Block) →
    (∀ b ∈ bs, b.isItem = areItems ∧ b.Nested) →
      Nested (.of areItems) (blockEvents r tight bs)
  | [], _ => .nil
  | b :: bs, h => by
    obtain ⟨⟨hitem, hb⟩, hbs⟩ := List.forall_mem_cons.1 h
    have hfirst := nested_block r tight b hb
    rw [hitem] at hfirst
    rw [blockEvents]
    exact hfirst.append (nested_blocks r tight areItems bs hbs)

end

theorem nested_readEvents (markdown : String) : Nested .flow (readEvents markdown) :=
  nested_blocks _ false false _ (nested_readBlocks markdown.toList)

instance : Parser := ⟨readEvents, nested_readEvents⟩

end Folio.Markdown
