import Folio.Text.Blank
import Folio.Text.Slice
/-!
A markdown text as a sequence of events: spans that start and stop, and leaves between them. Reading a
text is left to a `Parser`; what is asked of it is how its events stand in each other.
-/
set_option autoImplicit false

namespace Folio.Markdown

inductive TagOf (α : Type) where
  | paragraph
  | heading (level : Nat)
  | fenced (info : String)
  | indented
  | list (start : Option Nat)
  | item
  | table (place : α)
  | tableHead
  | tableRow
  | tableCell
  | emphasis
  | strong
  | strikethrough
  | link (url : String)
  | image (url : String)
  | quote
  | htmlBlock
  deriving Repr, DecidableEq

inductive EventOf (α : Type) where
  | start (tag : TagOf α)
  | stop
  | text (value : String)
  | code (value : String)
  | softBreak
  | hardBreak
  | html
  | rule
  deriving Repr, DecidableEq

abbrev Tag := TagOf String

abbrev Event := EventOf String

structure Extent where
  start : Nat
  stop : Nat
  deriving Repr, DecidableEq

section

variable {α β : Type}

def span (tag : TagOf α) (inner : List (EventOf α)) : List (EventOf α) := .start tag :: (inner ++ [.stop])

def TagOf.isInline : TagOf α → Bool
  | .emphasis | .strong | .strikethrough | .link _ | .image _ => true
  | _ => false

def EventOf.isLeaf : EventOf α → Bool
  | .start _ | .stop => false
  | _ => true

/-- A stop is inline as far as its start is. -/
def EventOf.isInline : EventOf α → Bool
  | .start tag => tag.isInline
  | .rule => false
  | _ => true

/-- What stands side by side: the items of a list, blocks or the content of a tight item, the rows of a
table, the cells of a row, inline content, or the text of a block of code. -/
inductive Level where
  | items
  | flow
  | rows
  | cells
  | inline
  | texts
  deriving Repr, DecidableEq

def TagOf.inside : TagOf α → Level
  | .list _ => .items
  | .item | .quote => .flow
  | .table _ => .rows
  | .tableHead | .tableRow => .cells
  | .fenced _ | .indented => .texts
  | _ => .inline

def Level.takes : Level → EventOf α → Bool
  | .items, .start .item => true
  | .rows, .start .tableHead | .rows, .start .tableRow => true
  | .cells, .start .tableCell => true
  | .texts, .text _ => true
  | .inline, e => e.isInline
  | .flow, .start .item | .flow, .start .tableHead | .flow, .start .tableRow
  | .flow, .start .tableCell => false
  | .flow, _ => true
  | _, _ => false

/-- Starts and stops match, and everything stands where it may. -/
inductive Nested : Level → List (EventOf α) → Prop where
  | nil {l : Level} : Nested l []
  | leaf {l : Level} {e : EventOf α} {es : List (EventOf α)} (he : e.isLeaf = true)
      (htakes : l.takes e = true) (hes : Nested l es) : Nested l (e :: es)
  | span {l : Level} {tag : TagOf α} {inner es : List (EventOf α)}
      (htakes : l.takes (.start tag) = true) (hinner : Nested tag.inside inner) (hes : Nested l es) :
      Nested l (span tag inner ++ es)

def TagOf.map (f : α → β) : TagOf α → TagOf β
  | .paragraph => .paragraph
  | .heading level => .heading level
  | .fenced info => .fenced info
  | .indented => .indented
  | .list start => .list start
  | .item => .item
  | .table place => .table (f place)
  | .tableHead => .tableHead
  | .tableRow => .tableRow
  | .tableCell => .tableCell
  | .emphasis => .emphasis
  | .strong => .strong
  | .strikethrough => .strikethrough
  | .link url => .link url
  | .image url => .image url
  | .quote => .quote
  | .htmlBlock => .htmlBlock

def EventOf.map (f : α → β) : EventOf α → EventOf β
  | .start tag => .start (tag.map f)
  | .stop => .stop
  | .text value => .text value
  | .code value => .code value
  | .softBreak => .softBreak
  | .hardBreak => .hardBreak
  | .html => .html
  | .rule => .rule

theorem TagOf.inside_map (f : α → β) (tag : TagOf α) : (tag.map f).inside = tag.inside := by
  cases tag <;> rfl

theorem EventOf.isLeaf_map (f : α → β) (e : EventOf α) : (e.map f).isLeaf = e.isLeaf := by
  cases e <;> rfl

theorem Level.takes_map (l : Level) (f : α → β) (e : EventOf α) : l.takes (e.map f) = l.takes e := by
  cases e with
  | start tag => cases l <;> cases tag <;> rfl
  | _ => cases l <;> rfl

theorem map_span (f : α → β) (tag : TagOf α) (inner : List (EventOf α)) :
    (span tag inner).map (EventOf.map f) = span (tag.map f) (inner.map (EventOf.map f)) := by
  simp [span, EventOf.map]

variable {l : Level} {tag : TagOf α} {es as bs inner : List (EventOf α)}

theorem Nested.map (f : α → β) (h : Nested l es) : Nested l (es.map (EventOf.map f)) := by
  induction h with
  | nil => exact .nil
  | leaf he htakes _ ih =>
    exact .leaf ((EventOf.isLeaf_map f _).trans he) ((Level.takes_map _ f _).trans htakes) ih
  | span htakes _ _ ihinner ih =>
    rw [List.map_append, map_span]
    exact .span ((Level.takes_map _ f (.start _)).trans htakes)
      (by rwa [TagOf.inside_map]) ih

theorem Nested.one (tag : TagOf α) (htakes : l.takes (.start tag) = true) (h : Nested tag.inside inner) :
    Nested l (Markdown.span tag inner) := by
  simpa using Nested.span htakes h .nil

theorem Nested.append (h : Nested l as) (h' : Nested l bs) : Nested l (as ++ bs) := by
  induction h with
  | nil => exact h'
  | leaf he htakes _ ih => exact .leaf he htakes (ih h')
  | span htakes hinner _ _ ih => simpa using Nested.span htakes hinner (ih h')

theorem Nested.flatMap {γ : Type} {f : γ → List (EventOf α)} (h : ∀ a, Nested l (f a)) (as : List γ) :
    Nested l (as.flatMap f) := by
  induction as with
  | nil => exact .nil
  | cons a as ih => simpa using (h a).append ih

end

/-- What reads markdown. Its events come in the order of the text, each table with its extent. -/
class Parser where
  events : String → List (EventOf Extent)
  nested (markdown : String) : Nested .flow (events markdown)

/-- The text of an extent without the blanks behind it; nothing if there is no such extent. -/
def sourceAt (markdown : String) (r : Extent) : String :=
  String.ofList (Text.trimEndChars ((Text.slice? markdown.toList r.start r.stop).getD []))

def events [Parser] (markdown : String) : List Event :=
  (Parser.events markdown).map (EventOf.map (sourceAt markdown))

theorem nested_events [Parser] (markdown : String) : Nested .flow (events markdown) :=
  (Parser.nested markdown).map _

end Folio.Markdown
