import Folio.Document.Node
import Folio.Markdown.Event
/-!
A tree from a sequence of events: a stack of open frames, one for each span that has started and
not stopped. The sequence makes a tree exactly if every span stops and none stops twice, which the
events of a markdown text do (`nodes?_events_isSome`).
-/
set_option autoImplicit false

namespace Folio

open Markdown (Event Tag)

/-- What a span becomes when it stops. -/
inductive Span where
  | node (kind : Kind)
  /-- No node of its own: the children go to the parent. -/
  | lifted
  | image (url : String)
  | code (lang : Option String)
  deriving Repr, DecidableEq

/-- Header and body rows are the same kind of node. -/
def Span.ofTag : Tag → Span
  | .paragraph => .node .paragraph
  | .heading level => .node (.heading level)
  | .fenced info => .code ((Text.firstWord info.toList).map String.ofList)
  | .indented => .code none
  | .list start => .node (.list start)
  | .item => .node .listItem
  | .table source => .node (.table source)
  | .tableHead | .tableRow => .node .tableRow
  | .tableCell => .node .tableCell
  | .emphasis => .node .emphasis
  | .strong => .node .strong
  | .link url => .node (.link url)
  | .image url => .image url
  | .strikethrough | .quote | .htmlBlock => .lifted

/-- Adds a node behind others, last first: a text goes on with the text before it. -/
def joinNode (n : Node) : List Node → List Node
  | [] => [n]
  | top :: rest =>
    match top.kind, n.kind with
    | .text before, .text value => .mk top.id (.text (before ++ value)) top.children :: rest
    | _, _ => n :: top :: rest

/-- Gives each maximal run of inline nodes a paragraph; `run` holds the open one, last first. -/
def wrapRuns : List Node → List Node → List Node
  | [], [] => []
  | run, [] => [.new .paragraph run.reverse]
  | run, n :: ns =>
    if n.isInline then wrapRuns (n :: run) ns
    else if run.isEmpty then n :: wrapRuns [] ns
    else .new .paragraph run.reverse :: n :: wrapRuns [] ns

/-- An open span: its children so far, last first, and the text of a code block. -/
structure Frame where
  span : Span
  children : List Node
  text : String

def Frame.new (span : Span) : Frame := ⟨span, [], ""⟩

def Frame.push (f : Frame) (n : Node) : Frame := { f with children := joinNode n f.children }

def dropLineFeed (s : String) : String :=
  match s.toList.reverse with
  | '\n' :: rest => String.ofList rest.reverse
  | _ => s

def Frame.finish (f : Frame) : List Node :=
  let children := f.children.reverse
  match f.span with
  | .node .listItem => [.new .listItem (wrapRuns [] children)]
  | .node kind => [.new kind children]
  | .lifted => children
  | .image url => [.leaf (.image url (Node.new .paragraph children).plainText)]
  | .code lang => [.leaf (.code lang (dropLineFeed f.text))]

structure Frames where
  top : Frame
  outer : List Frame

def Frames.start : Frames := ⟨.new (.node .document), []⟩

def Frames.push (fs : Frames) (n : Node) : Frames := { fs with top := fs.top.push n }

def Frames.step? (fs : Frames) : Event → Option Frames
  | .start tag => some ⟨.new (.ofTag tag), fs.top :: fs.outer⟩
  | .stop =>
    match fs.outer with
    | [] => none
    | parent :: rest => some ⟨fs.top.finish.foldl Frame.push parent, rest⟩
  | .text value =>
    match fs.top.span with
    | .code _ => some { fs with top := { fs.top with text := fs.top.text ++ value } }
    | _ => some (fs.push (.leaf (.text value)))
  | .code value => some (fs.push (.leaf (.inlineCode value)))
  | .softBreak | .hardBreak => some (fs.push (.leaf (.text " ")))
  | .html | .rule => some fs

def Frames.run? (fs : Frames) : List Event → Option Frames
  | [] => some fs
  | e :: es => (fs.step? e).bind (·.run? es)

/-- The nodes at the top of the tree that the events describe. -/
def nodes? (es : List Event) : Option (List Node) :=
  match Frames.start.run? es with
  | some ⟨top, []⟩ => some top.children.reverse
  | _ => none

theorem Frames.run?_append (fs : Frames) (as bs : List Event) :
    fs.run? (as ++ bs) = (fs.run? as).bind (·.run? bs) := by
  induction as generalizing fs with
  | nil => rfl
  | cons a as ih => cases h : fs.step? a <;> simp [Frames.run?, h, ih]

/-- Events that leave every open frame but the innermost as it was. -/
def Balanced (es : List Event) : Prop :=
  ∀ fs : Frames, ∃ top, fs.run? es = some ⟨top, fs.outer⟩

theorem Balanced.nil : Balanced [] := fun fs => ⟨fs.top, rfl⟩

theorem Balanced.append {as bs : List Event} (ha : Balanced as) (hb : Balanced bs) :
    Balanced (as ++ bs) := by
  intro fs
  obtain ⟨top, h⟩ := ha fs
  obtain ⟨top', h'⟩ := hb ⟨top, fs.outer⟩
  exact ⟨top', by simp [Frames.run?_append, h, h']⟩

theorem Balanced.span {es : List Event} (tag : Tag) (h : Balanced es) :
    Balanced (Markdown.span tag es) := by
  intro fs
  obtain ⟨top, h'⟩ := h ⟨.new (.ofTag tag), fs.top :: fs.outer⟩
  exact ⟨top.finish.foldl Frame.push fs.top, by
    simp [Markdown.span, Frames.run?, Frames.step?, Frames.run?_append, h']⟩

theorem Balanced.leaf {e : Event} (he : e.isLeaf = true) : Balanced [e] := by
  intro fs
  cases e with
  | start | stop => cases he
  | text value =>
    simp only [Frames.run?, Frames.step?]
    split <;> exact ⟨_, rfl⟩
  | _ => exact ⟨_, rfl⟩

theorem balanced_of_nested {l : Markdown.Level} {es : List Event} (h : Markdown.Nested l es) :
    Balanced es := by
  induction h with
  | nil => exact .nil
  | leaf he _ _ ih => exact (Balanced.leaf he).append ih
  | span _ _ _ ihinner ih => exact (ihinner.span _).append ih

theorem nodes?_isSome_of_balanced {es : List Event} (h : Balanced es) : (nodes? es).isSome := by
  obtain ⟨top, h⟩ := h Frames.start
  rw [nodes?, h]
  rfl

theorem nodes?_events_isSome [Markdown.Parser] (markdown : String) :
    (nodes? (Markdown.events markdown)).isSome :=
  nodes?_isSome_of_balanced (balanced_of_nested (Markdown.nested_events markdown))

end Folio
