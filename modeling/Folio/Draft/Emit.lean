import Folio.Asset.Map
import Folio.Config.Options
import Folio.Document.Basic
import Folio.Draft.Basic
import Folio.Web.Url
/-!
Drafting a document tree. A node is drafted after all nodes before it; the style of a span is set once
the span is complete, so it covers exactly the text below its node.
-/
set_option autoImplicit false

namespace Folio

open Edit

structure Setting where
  fingerprint : String
  assets : AssetMap
  options : ExportOptions
  deriving Repr

namespace Setting

def imageSize (s : Setting) : Option Size :=
  s.options.imageSize.map fun size => ⟨size.height, size.width⟩

def isDiagram (s : Setting) (lang : Option String) : Bool :=
  (lang.map s.options.isDiagramLanguage).getD false

/-- What stands before a list item. Items are counted in 64 bits. -/
def itemMark (s : Setting) : Option Nat → String
  | some n => (n % Nat.pow 2 64).repr ++ ". "
  | none => s.options.bullet

theorem itemMark_number (s : Setting) {n : Nat} (h : n < Nat.pow 2 64) :
    s.itemMark (some n) = n.repr ++ ". " := by
  rw [itemMark, Nat.mod_eq_of_lt h]

end Setting

def rowText (row : Node) : String := "\t".intercalate (row.children.map Node.plainText)

namespace Draft

/-- The picture of a node in a paragraph of its own; nothing if there is no picture. -/
def insertAsset (s : Setting) (id : Nat) (d : Draft) : Draft :=
  match s.assets.get? id with
  | some uri => (d.insertImage uri s.imageSize).terminate
  | none => d

def insertMarker (s : Setting) (node : Node) (d : Draft) : Draft :=
  ((d.insert (placeholder s.fingerprint d.tables.length)).terminate).planTable node

def insertRows (rows : List Node) (d : Draft) : Draft :=
  rows.foldl (fun d row => (d.insert (rowText row)).terminate) d

def insertTable (s : Setting) (node : Node) (d : Draft) : Draft :=
  match s.options.tableStrategy with
  | .native => d.insertMarker s node
  | .image =>
    if (s.assets.get? node.id).isSome then d.insertAsset s node.id else d.insertRows node.children

def insertCode (s : Setting) (id : Nat) (lang : Option String) (value : String) (d : Draft) : Draft :=
  if s.isDiagram lang then d.insertAsset s id
  else
    let e := d.insert value
    let stop := e.index
    let e := e.terminate
    if (Range.mk d.index stop).isEmpty then e else e.push (.text ⟨d.index, stop⟩ codeStyle)

end Draft

mutual

def Node.emit (s : Setting) : Node → Draft → Draft
  | .mk id kind children, d =>
    match kind with
    | .document | .tableRow | .tableCell => emitAll s children d
    | .list start => emitItems s start children d
    | .listItem => emitAll s children (d.insert (s.itemMark none))
    | .heading depth =>
      let e := (emitAll s children d).terminate
      let e := e.headingSince d.index (.ofDepth depth)
      if s.options.headingTextStyles then e.styleSince d.index (headingTextStyle depth) else e
    | .paragraph => (emitAll s children d).terminate
    | .text value => d.insert value
    | .inlineCode value => (d.insert value).styleSince d.index inlineCodeStyle
    | .strong => (emitAll s children d).styleSince d.index .isBold
    | .emphasis => (emitAll s children d).styleSince d.index .isItalic
    | .link url => (emitAll s children d).styleSince d.index (.linkTo url)
    | .image url alt => if Web.isAbsoluteUrl url then d.insertImage url s.imageSize else d.insert alt
    | .code lang value => d.insertCode s id lang value
    | .table source => d.insertTable s (.mk id (.table source) children)

def emitAll (s : Setting) : List Node → Draft → Draft
  | [], d => d
  | n :: ns, d => emitAll s ns (n.emit s d)

/-- Whatever its kind, a child of a list is drafted as an item. -/
def emitItems (s : Setting) (number : Option Nat) : List Node → Draft → Draft
  | [], d => d
  | .mk _ _ children :: ns, d =>
    emitItems s (number.map (· + 1)) ns (emitAll s children (d.insert (s.itemMark number)))

end

def Document.compile (doc : Document) (assets : AssetMap) (options : ExportOptions) : Draft :=
  doc.root.emit ⟨doc.fingerprint, assets, options⟩ .empty

/-- Two settings that drafting does not tell apart. The fingerprint and the strategy for tables count
only where a table is drafted. -/
structure Setting.Alike (s s' : Setting) : Prop where
  assets : s.assets = s'.assets
  imageSize : s.imageSize = s'.imageSize
  isDiagram : s.isDiagram = s'.isDiagram
  itemMark : s.itemMark = s'.itemMark
  headingTextStyles : s.options.headingTextStyles = s'.options.headingTextStyles
  insertTable : ∀ (node : Node) (d : Draft), d.insertTable s node = d.insertTable s' node

section

variable {s s' : Setting}

theorem Setting.Alike.insertAsset (h : s.Alike s') (id : Nat) (d : Draft) :
    d.insertAsset s id = d.insertAsset s' id := by
  rw [Draft.insertAsset, Draft.insertAsset, h.assets, h.imageSize]

theorem Setting.Alike.insertCode (h : s.Alike s') (id : Nat) (lang : Option String) (value : String)
    (d : Draft) : d.insertCode s id lang value = d.insertCode s' id lang value := by
  rw [Draft.insertCode, Draft.insertCode, h.isDiagram, h.insertAsset]

mutual

theorem emit_congr (h : s.Alike s') : (n : Node) → (d : Draft) → n.emit s d = n.emit s' d
  | .mk id kind children, d => by
    cases kind with
    | list start => rw [Node.emit, Node.emit, emitItems_congr h start children]
    | listItem => rw [Node.emit, Node.emit, h.itemMark, emitAll_congr h children]
    | heading depth =>
      rw [Node.emit, Node.emit, h.headingTextStyles, emitAll_congr h children]
    | image url alt => rw [Node.emit, Node.emit, h.imageSize]
    | code lang value => rw [Node.emit, Node.emit, h.insertCode]
    | table source => rw [Node.emit, Node.emit, h.insertTable]
    | _ => simp only [Node.emit, emitAll_congr h children]

theorem emitAll_congr (h : s.Alike s') :
    (ns : List Node) → (d : Draft) → emitAll s ns d = emitAll s' ns d
  | [], d => by rw [emitAll, emitAll]
  | n :: ns, d => by rw [emitAll, emitAll, emit_congr h n, emitAll_congr h ns]

theorem emitItems_congr (h : s.Alike s') (number : Option Nat) :
    (ns : List Node) → (d : Draft) → emitItems s number ns d = emitItems s' number ns d
  | [], d => by rw [emitItems, emitItems]
  | .mk _ _ children :: ns, d => by
    rw [emitItems, emitItems, h.itemMark, emitAll_congr h children, emitItems_congr h _ ns]

end

end

end Folio
