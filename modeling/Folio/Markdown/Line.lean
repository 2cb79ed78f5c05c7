/-!
Reading lines by position. A place is an offset into a text together with what follows it; a margin
is a place inside the indentation of a line, where a tab may have been used only in part.
-/
set_option autoImplicit false

namespace Folio.Markdown

/-- Blanks other than line ends. -/
def isGap (c : Char) : Bool := c == ' ' || c == '\t' || c == '\x0b' || c == '\x0c'

def isLineEnd (c : Char) : Bool := c == '\n' || c == '\r'

def isSpace (c : Char) : Bool := isGap c || isLineEnd c

def countWhile (p : Char → Bool) : List Char → Nat
  | [] => 0
  | c :: cs => if p c then countWhile p cs + 1 else 0

def gapLength (cs : List Char) : Nat := countWhile isGap cs

/-- The length of the line end that comes next; the end of the text counts, with length 0. -/
def lineEnd? : List Char → Option Nat
  | [] => some 0
  | '\n' :: _ => some 1
  | '\r' :: '\n' :: _ => some 2
  | '\r' :: _ => some 1
  | _ => none

def blankLine? (cs : List Char) : Option Nat :=
  let n := gapLength cs
  (lineEnd? (cs.drop n)).map (n + ·)

def isBlankLine (cs : List Char) : Bool := (blankLine? cs).isSome

def lineLength : List Char → Nat
  | [] => 0
  | c :: cs => if c == '\n' then 1 else lineLength cs + 1

structure Place where
  offset : Nat
  rest : List Char
  deriving Repr, DecidableEq

def Place.advance (p : Place) (n : Nat) : Place := ⟨p.offset + n, p.rest.drop n⟩

/-- `column` counts the columns since the last tab stop met, `spare` the columns of the last tab
that are still unused. -/
structure Margin where
  place : Place
  column : Nat
  spare : Nat
  deriving Repr, DecidableEq

def Margin.ofPlace (p : Place) : Margin := ⟨p, 0, 0⟩

def Margin.rest (m : Margin) : List Char := m.place.rest

/-- Takes up to `need` columns of spaces and tabs; a tab reaches to the next multiple of four. The
number tells how many columns were lacking. -/
def columnsFrom (need offset column : Nat) : List Char → Nat × Margin
  | ' ' :: cs =>
    match need with
    | 0 => (0, ⟨⟨offset, ' ' :: cs⟩, column, 0⟩)
    | need + 1 => columnsFrom need (offset + 1) (column + 1) cs
  | '\t' :: cs =>
    match need with
    | 0 => (0, ⟨⟨offset, '\t' :: cs⟩, column, 0⟩)
    | need + 1 =>
      let width := 4 - column % 4
      if width ≤ need + 1 then columnsFrom (need + 1 - width) (offset + 1) 0 cs
      else (0, ⟨⟨offset + 1, cs⟩, 0, width - (need + 1)⟩)
  | cs => (need, ⟨⟨offset, cs⟩, column, 0⟩)

def Margin.columns (m : Margin) (need : Nat) : Nat × Margin :=
  if need ≤ m.spare then (0, { m with spare := m.spare - need })
  else columnsFrom (need - m.spare) m.place.offset m.column m.place.rest

def Margin.take (m : Margin) (n : Nat) : Bool × Margin :=
  let (lacking, m') := m.columns n
  (lacking == 0, m')

def Margin.takeUpTo (m : Margin) (n : Nat) : Nat × Margin :=
  let (lacking, m') := m.columns n
  (n - lacking, m')

/-- Moves over characters that are no indentation. -/
def Margin.skip (m : Margin) (n : Nat) : Margin :=
  { m with place := m.place.advance n, column := m.column + n }

def Margin.skipBlanks (m : Margin) : Margin :=
  let n := countWhile (fun c => c == ' ' || c == '\t') m.rest
  { m with place := m.place.advance n, column := m.column + n, spare := 0 }

def Margin.atLineEnd (m : Margin) : Bool :=
  match m.rest with
  | [] => true
  | c :: _ => isLineEnd c

end Folio.Markdown
