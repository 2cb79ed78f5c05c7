import Folio.Markdown.Table

set_option autoImplicit false

namespace Folio.Markdown

/-- A line feed ends a line of code, whatever ended it in the source. -/
def codeLine (spare : Nat) (line : List Char) : List Char :=
  let line := match line.reverse with
    | '\n' :: '\r' :: rest => ('\n' :: rest).reverse
    | _ => line
  List.replicate spare ' ' ++ line

def fencedLines (open_ : List Container) (indent : Nat) (mark : Char) (size : Nat) :
    Nat → List Char → Place → List Char × Place
  | 0, text, p => (text, p)
  | fuel + 1, text, p =>
    let (n, m) := continuedBy (.ofPlace p) open_
    if n < open_.length then (text, p)
    else
      let (_, m) := m.columns indent
      let (deep, close) := m.take (4 - indent)
      match if deep then none else closingFence? mark size close.rest with
      | some k =>
        let q := close.place.advance k
        (text, q.advance ((blankLine? q.rest).getD 0))
      | none =>
        let k := lineLength m.rest
        fencedLines open_ indent mark size fuel (text ++ codeLine m.spare (m.rest.take k))
          (m.place.advance k)

def trimSpace (cs : List Char) : List Char := (cs.reverse.dropWhile isSpace).reverse

def readFenced (open_ : List Container) (indent : Nat) (mark : Char) (size : Nat) (p : Place) :
    Block × Place :=
  let p := p.advance size
  let p := p.advance (gapLength p.rest)
  let k := lineLength p.rest
  let (text, q) := fencedLines open_ indent mark size (p.rest.length + 1) [] (p.advance k)
  (.fenced (unescape false (trimSpace (p.rest.take k))) text, q)

def indentedLines (open_ : List Container) :
    Nat → List (List Char × Bool) → Place → Nat → List (List Char × Bool) × Place
  | 0, lines, p, _ => (lines, p)
  | fuel + 1, lines, p, spare =>
    let k := lineLength p.rest
    let blank := !lines.isEmpty && isBlankLine p.rest
    let lines := (codeLine spare (p.rest.take k), blank) :: lines
    let q := p.advance k
    let (n, m) := continuedBy (.ofPlace q) open_
    let (deep, m) := m.take 4
    if n < open_.length || !(deep || m.atLineEnd) || m.rest.isEmpty then (lines, q)
    else indentedLines open_ fuel lines m.place m.spare

/-- Blank lines at the end are no part of the code; the flag says whether there were any. -/
def readIndented (open_ : List Container) (p : Place) (spare : Nat) : Block × Bool × Place :=
  let (lines, q) := indentedLines open_ (p.rest.length + 1) [] p spare
  let kept := (lines.dropWhile (·.2)).reverse
  (.indented (kept.flatMap (·.1)), (lines.head?.map (·.2)).getD false, q)

def htmlThrough (open_ : List Container) (stop : List Char) : Nat → Place → Place
  | 0, p => p
  | fuel + 1, p =>
    let k := lineLength p.rest
    let q := p.advance k
    let (n, m) := continuedBy (.ofPlace q) open_
    if n < open_.length || (lengthThrough? stop (p.rest.take k)).isSome || m.rest.isEmpty then q
    else htmlThrough open_ stop fuel m.place

def htmlUntilBlank (open_ : List Container) : Nat → Place → Place
  | 0, p => p
  | fuel + 1, p =>
    let q := p.advance (lineLength p.rest)
    let (n, m) := continuedBy (.ofPlace q) open_
    if n < open_.length || m.atLineEnd || isBlankLine m.rest then q
    else htmlUntilBlank open_ fuel m.place

def headingText (line : List Char) : Bool × List Char :=
  let text := (line.reverse.dropWhile (· == ' ')).reverse
  let body := text.reverse.dropWhile (· == '#')
  if body.isEmpty then (false, [])
  else
    let spaces := runLength ' ' body
    if spaces == 0 then (false, text)
    else (body.length < text.length, (body.drop spaces).reverse)

def readHeading (level : Nat) (p : Place) : Block × Place :=
  let p := p.advance level
  let p := p.advance (gapLength p.rest)
  let k := countWhile (!isLineEnd ·) p.rest
  let q := p.advance (k + (lineEnd? (p.rest.drop k)).getD 0)
  let (closed, text) := headingText (p.rest.take k)
  (.heading level closed text, q)

/-- The rows of a table after its delimiter row, and the place after them. A lone bar is no row. -/
def tableRows (open_ : List Container) (columns : Nat) :
    Nat → Nat → Place → List (List (List Char)) × Place
  | 0, _, p => ([], p)
  | fuel + 1, filled, p =>
    let (n, m) := continuedBy (.ofPlace p) open_
    let m := m.skipBlanks
    if n < open_.length || m.atLineEnd || interrupts true m.rest then ([], p)
    else
      let k := countWhile (!isLineEnd ·) m.rest
      let cells := rowCells (k + 1) (m.rest.take k)
      let filled := filled + (columns - cells.length)
      if cells.isEmpty || maxFilledCells < filled then ([], p)
      else
        let (rows, q) := tableRows open_ columns fuel filled
          (m.place.advance (k + (lineEnd? (m.rest.drop k)).getD 0))
        (fitRow columns cells :: rows, q)

/-- Whether a header row stands here, with a delimiter row of as many columns below it. Returns the
place after the delimiter row and the number of columns. -/
def tableHead? (open_ : List Container) (p : Place) : Option (Place × Nat) :=
  let k := countWhile (!isLineEnd ·) p.rest
  let columns := headerColumns (p.rest.take k)
  match p.rest.drop k with
  | [] => none
  | below =>
    if columns == 0 then none
    else
      let q := p.advance (k + (lineEnd? below).getD 0)
      let (n, m) := continuedBy (.ofPlace q) open_
      if n < open_.length then none
      else match delimiterRow? m with
        | some (body, found) => if found == columns then some (body, columns) else none
        | none => none

def readTable (open_ : List Container) (p body : Place) (columns : Nat) : Block × Place :=
  let k := countWhile (!isLineEnd ·) p.rest
  let header := fitRow columns (rowCells (k + 1) (p.rest.take k))
  let (rows, q) := tableRows open_ columns (body.rest.length + 1) 0 body
  (.table p.offset q.offset (header :: rows), q)

structure ParagraphLine where
  text : List Char
  next : Place

/-- The lines of a paragraph, and the level and end of the line that underlines it, if one does. A table
ends a paragraph only if its first row begins with a bar. -/
def paragraphLines (open_ : List Container) :
    Nat → Place → List ParagraphLine × Option (Nat × Place)
  | 0, _ => ([], none)
  | fuel + 1, p =>
    let k := countWhile (!isLineEnd ·) p.rest
    let q := p.advance (k + (lineEnd? (p.rest.drop k)).getD 0)
    let line : ParagraphLine := ⟨p.rest.take k, q⟩
    let (n, m) := continuedBy (.ofPlace q) open_
    let current := n == open_.length
    let (deep, m') := m.take 4
    let under := if !deep && current then underline? m'.rest else none
    match under with
    | some (level, length) => ([line], some (level, m'.place.advance length))
    | none =>
      if (!deep && (interrupts (!current) m'.rest
          || (current && m'.rest.head? == some '|' && (tableHead? open_ m'.place).isSome)))
          || m'.skipBlanks.atLineEnd then
        ([line], none)
      else
        let (lines, ending) := paragraphLines open_ fuel m.place
        (line :: lines, ending)

def joinLines (lines : List ParagraphLine) : List Char :=
  ['\n'].intercalate (lines.map (·.text))

/-- What a paragraph turns out to be: a definition, which leaves no block, or a block. -/
inductive Prose where
  | definition (d : Definition)
  | block (b : Block)

def readProse (open_ : List Container) (p : Place) : Prose × Place :=
  let (lines, ending) := paragraphLines open_ (p.rest.length + 1) p
  let text := joinLines lines
  match definition? text with
  | some (d, used) =>
    let n := (text.take used).count '\n'
    (.definition d, ((lines[n]?).map (·.next)).getD p)
  | none =>
    match tableHead? open_ p with
    | some (body, columns) =>
      let (b, q) := readTable open_ p body columns
      (.block b, q)
    | none =>
      match ending with
      | some (level, q) => (.block (.heading level false text), q)
      | none => (.block (.paragraph text), ((lines.getLast?).map (·.next)).getD p)

end Folio.Markdown
