import Folio.Markdown.Link
import Folio.Markdown.Html

set_option autoImplicit false

namespace Folio.Markdown

inductive Block where
  | paragraph (text : List Char)
  /-- `closed` says that a closing run of number signs was cut off the text. -/
  | heading (level : Nat) (closed : Bool) (text : List Char)
  | fenced (info text : List Char)
  | indented (text : List Char)
  | html
  | rule
  /-- `start` and `stop` are offsets into the whole text; the first row is the header. -/
  | table (start stop : Nat) (rows : List (List (List Char)))
  | quote (blocks : List Block)
  /-- The items of a tight list hold no blank line between their blocks. -/
  | list (start : Option Nat) (tight : Bool) (items : List Block)
  | item (blocks : List Block)
  deriving Repr, Inhabited

/-- A container that later lines may continue. An item asks for `indent` columns. -/
inductive Container where
  | quote
  | list (tight : Bool) (delimiter : Char) (start : Nat)
  | item (indent : Nat)
  deriving Repr, DecidableEq

def Container.close (blocks : List Block) : Container → Block
  | .quote => .quote blocks
  | .list tight delimiter start =>
    .list (if delimiter == '.' || delimiter == ')' then some start else none) tight blocks
  | .item _ => .item blocks

/-- Follows the open containers, outermost first, into a line. Returns how many of them the line
continues. -/
def continuedBy (m : Margin) : List Container → Nat × Margin
  | [] => (0, m)
  | c :: cs =>
    let next : Option Margin := match c with
      | .quote => ((m.columns 3).2).quoteMarker?
      | .list .. => some m
      | .item indent =>
        let (taken, m') := m.take indent
        if taken || m'.atLineEnd then some m' else none
    match next with
    | none => (0, m)
    | some m' =>
      let (n, m'') := continuedBy m' cs
      (n + 1, m'')

/-- Whether a line can end the paragraph before it, tables aside. -/
def interrupts (loosely : Bool) (cs : List Char) : Bool :=
  (lineEnd? cs).isSome || (thematicBreak? cs).isSome || (headingLevel? cs).isSome ||
    (fence? cs).isSome || cs.head? == some '>' || listInterrupts loosely cs ||
    match cs with
    | '<' :: rest => (verbatimEnd? rest).isSome || opensBlockElement rest
    | _ => false

end Folio.Markdown
