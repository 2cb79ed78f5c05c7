import Folio.Markdown.Html
import Folio.Markdown.Link
import Folio.Markdown.Emphasis

set_option autoImplicit false

namespace Folio.Markdown

/-- An opening bracket: whether it may open an image or a link, the text behind it, and the pieces
before it, last first. -/
structure Bracket where
  image : Bool
  active : Bool
  after : List Char
  before : List Piece

structure InlineScan where
  pieces : List Piece
  brackets : List Bracket
  last : Option Char
  /-- The last piece took its end from its target: a link with a destination in place, a bare link
  or raw HTML. -/
  targeted : Bool

def InlineScan.add (s : InlineScan) (i : Inline) : InlineScan :=
  { s with pieces := .node i :: s.pieces, targeted := false }

def Bracket.text (b : Bracket) : Inline := .text (if b.image then ['!', '['] else ['['])

def InlineScan.dropBracket (s : InlineScan) (b : Bracket) (rest : List Bracket) : InlineScan :=
  { s with pieces := s.pieces ++ .node b.text :: b.before, brackets := rest }

/-- Links hold no links: once one is complete, no earlier bracket can open another. -/
def deactivate (b : Bracket) : Bracket := if b.image then b else { b with active := false }

def InlineScan.closeBracket (s : InlineScan) (b : Bracket) (rest : List Bracket)
    (url : List Char) (targeted : Bool) : InlineScan :=
  let content := pairEmphasis s.pieces.reverse
  let node : Inline := if b.image then .image url content else .link url content
  { s with
    pieces := .node node :: b.before
    brackets := if b.image then rest else rest.map deactivate
    targeted := targeted }

def linkGap (cs : List Char) : Nat :=
  let n := gapLength cs
  match cs.drop n with
  | c :: rest => if isLineEnd c then n + 1 + gapLength rest else n
  | [] => n

def inlineTarget? (inTable : Bool) (cs : List Char) : Option (Nat × List Char) :=
  match cs with
  | '(' :: afterParen =>
    let gap := linkGap afterParen
    match destination? (afterParen.drop gap) with
    | none => none
    | some (n, raw) =>
      let used := gap + n
      let used := used + linkGap (afterParen.drop used)
      let used := match title? (afterParen.drop used) with
        | some m => used + m + linkGap (afterParen.drop (used + m))
        | none => used
      if afterParen[used]? == some ')' then some (used + 2, unescape inTable raw) else none
  | _ => none

/-- The destination of the reference that a closing bracket ends, and the length of what follows the
bracket as part of it. `inside` is the text between the brackets. -/
def referenceTarget? (inTable : Bool) (definitions : List Definition) (inside after : List Char) :
    Option (Nat × List Char) :=
  let own : Option (List Char) :=
    match label? inTable true (inside ++ [']']) with
    | some (n, label) => if n == inside.length + 1 then findDefinition? definitions label else none
    | none => none
  match after with
  | '[' :: ']' :: _ => own.map fun url => (2, url)
  | '[' :: rest =>
    match label? inTable true rest with
    | some (n, label) => (findDefinition? definitions label).map fun url => (n + 1, url)
    | none => own.map fun url => (0, url)
  | _ => own.map fun url => (0, url)

/-- The content of a code span of `size` backticks, and the length up to the end of the closing run.
`run` counts the backticks just passed. -/
def codeSpan? (size run : Nat) (content : List Char) : List Char → Option (List Char)
  | [] => if run == size then some (content.drop size).reverse else none
  | c :: cs =>
    if c == '\x60' then codeSpan? size (run + 1) (c :: content) cs
    else if run == size then some (content.drop size).reverse
    else codeSpan? size 0 (c :: content) cs

def unescapeBars : List Char → List Char
  | '\\' :: '|' :: cs => '|' :: unescapeBars cs
  | c :: cs => c :: unescapeBars cs
  | [] => []

/-- Line ends are spaces, and one space is taken off both ends unless there is nothing else. -/
def codeText (inTable : Bool) (content : List Char) : List Char :=
  let text := (if inTable then unescapeBars content else content).map fun c =>
    if isLineEnd c then ' ' else c
  if text.head? == some ' ' && text.getLast? == some ' ' && text.any (· != ' ') then
    (text.drop 1).dropLast
  else text

def isPlain (c : Char) : Bool :=
  !(isSpace c || "\\&<![]*_~\x60".toList.contains c)

def InlineScan.step (inTable : Bool) (definitions : List Definition) (s : InlineScan) (c : Char)
    (cs : List Char) : Nat × InlineScan :=
  let all := c :: cs
  let newLine (n : Nat) (b : Inline) : Nat × InlineScan :=
    (n + countWhile (fun c => c == ' ' || c == '\t') (all.drop n), s.add b)
  if isLineEnd c then newLine 1 .softBreak
  else if isGap c then
    let n := gapLength all
    match all.drop n with
    | [] => (n, s)
    | d :: _ =>
      if isLineEnd d then newLine (n + 1) (if 2 ≤ n then .hardBreak else .softBreak)
      else (n, s.add (.text (all.take n)))
  else if c == '\\' then
    match cs with
    | [] => (1, s.add (.text [c]))
    | d :: rest =>
      if isLineEnd d then newLine 2 .hardBreak
      else if inTable && d == '\\' && rest.head? == some '|' then (3, s.add (.text ['|']))
      else if Text.isAsciiPunctuation d then (2, s.add (.text [d]))
      else (1, s.add (.text [c]))
  else if c == '&' then
    match reference? all with
    | some (n, value) => (n, s.add (.text value))
    | none => (1, s.add (.text [c]))
  else if c == '\x60' then
    let n := runLength c all
    match codeSpan? n 0 [] (all.drop n) with
    | some content => (n + content.length + n, s.add (.code (codeText inTable content)))
    | none => (n, s.add (.text (all.take n)))
  else if c == '<' then
    match bareTarget? cs with
    | some (n, target) =>
      (n + 1, { s.add (.link target [.text target]) with targeted := true })
    | none =>
      match inlineHtmlLength? all with
      | some n => (n, { s.add .html with targeted := true })
      | none => (1, s.add (.text [c]))
  else if c == '!' then
    match cs with
    | '[' :: rest =>
      (2, { s with pieces := [], brackets := ⟨true, true, rest, s.pieces⟩ :: s.brackets, targeted := false })
    | _ => (1, s.add (.text [c]))
  else if c == '[' then
    (1, { s with pieces := [], brackets := ⟨false, true, cs, s.pieces⟩ :: s.brackets, targeted := false })
  else if c == ']' then
    match s.brackets with
    | [] => (1, s.add (.text [c]))
    | b :: outer =>
      if !b.active then (1, (s.dropBracket b outer).add (.text [c]))
      else match inlineTarget? inTable cs with
        | some (n, url) => (n + 1, s.closeBracket b outer url true)
        | none =>
          let inside := b.after.take (b.after.length - all.length)
          match referenceTarget? inTable definitions inside cs with
          | some (n, url) => (n + 1, s.closeBracket b outer url false)
          | none => (1, (s.dropBracket b outer).add (.text [c]))
  else if c == '*' || c == '_' || c == '~' then
    let n := runLength c all
    let r := flankedRun c n s.last (all.drop n).head?
    if (r.opens || r.closes) && (c != '~' || n ≤ 2) then
      (n, { s with pieces := .run r :: s.pieces, targeted := false })
    else (n, s.add (.text (all.take n)))
  else
    let n := max 1 (countWhile isPlain all)
    (n, s.add (.text (all.take n)))

def lastRead (n : Nat) (cs : List Char) : Option Char :=
  match ((cs.take n).reverse.takeWhile (!isLineEnd ·)) with
  | c :: before => if (c :: before).all isGap && (cs.take n).any isLineEnd then none else some c
  | [] => none

def InlineScan.run (inTable : Bool) (definitions : List Definition) :
    Nat → InlineScan → List Char → InlineScan
  | 0, s, _ => s
  | _, s, [] => s
  | fuel + 1, s, c :: cs =>
    let (n, s) := s.step inTable definitions c cs
    InlineScan.run inTable definitions fuel { s with last := lastRead n (c :: cs) } ((c :: cs).drop n)

def InlineScan.dropBrackets : List Bracket → InlineScan → InlineScan
  | [], s => s
  | b :: rest, s => InlineScan.dropBrackets rest (s.dropBracket b rest)

/-- Reads the text of a leaf. After a closing run of a heading was cut off, an empty text remains
unless a target ended there. -/
def readInlines (inTable closed : Bool) (definitions : List Definition) (text : List Char) :
    List Inline :=
  let s := InlineScan.run inTable definitions (text.length + 1) ⟨[], [], none, false⟩ text
  let s := if closed && !s.targeted then s.add (.text []) else s
  pairEmphasis (InlineScan.dropBrackets s.brackets s).pieces.reverse

end Folio.Markdown
