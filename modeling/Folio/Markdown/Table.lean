import Folio.Markdown.Block

set_option autoImplicit false

namespace Folio.Markdown

structure DelimiterScan where
  columns : Nat
  fresh : Bool
  bar : Bool
  hyphen : Bool
  columnHyphen : Bool

def delimiterFrom? (used : Nat) (s : DelimiterScan) : List Char → Option (Nat × DelimiterScan)
  | [] => some (used, s)
  | c :: cs =>
    if isLineEnd c then some (used + (lineEnd? (c :: cs)).getD 0, s)
    else if c == ' ' then delimiterFrom? (used + 1) s cs
    else if c == ':' then delimiterFrom? (used + 1) { s with fresh := false } cs
    else if c == '-' then
      delimiterFrom? (used + 1) { s with fresh := false, hyphen := true, columnHyphen := true } cs
    else if c == '|' then
      if s.columnHyphen then
        delimiterFrom? (used + 1)
          { s with columns := s.columns + 1, fresh := true, bar := true, columnHyphen := false } cs
      else none
    else none

/-- Length and number of columns of a delimiter row. It is indented by at most three columns and
holds a bar and a hyphen; every bar but one at the start closes a column with a hyphen. -/
def delimiterRow? (m : Margin) : Option (Place × Nat) :=
  let (spaces, m) := m.takeUpTo 4
  if 3 < spaces then none
  else match m.rest with
    | [] => none
    | c :: cs =>
      let (lead, rest) := if c == '|' then (1, cs) else (0, c :: cs)
      match delimiterFrom? lead ⟨0, true, lead == 1, false, false⟩ rest with
      | none => none
      | some (used, s) =>
        if s.bar && s.hyphen then
          some (m.place.advance used, if s.fresh then s.columns else s.columns + 1)
        else none

/-- Bars of a line that no backslash precedes: their number, and what follows the last one. -/
def bars (count : Nat) (last : List Char) : List Char → Nat × List Char
  | [] => (count, last)
  | '\\' :: _ :: cs => bars count last cs
  | c :: cs => if c == '|' then bars (count + 1) cs cs else bars count last cs

/-- The number of columns of a header row, given as the text of its line. -/
def headerColumns (line : List Char) : Nat :=
  let (count, last) := bars 0 line line
  if count == 0 then 0
  else
    let count := if (line.drop (gapLength line)).head? == some '|' then count - 1 else count
    if isBlankLine last then count else count + 1

/-- The text of a cell up to the bar that ends it, or the line end. -/
def cellLength : List Char → Nat
  | [] => 0
  | '\\' :: '\\' :: '|' :: cs => cellLength cs + 3
  | '\\' :: d :: cs => if isLineEnd d then 1 else cellLength cs + 2
  | c :: cs => if c == '|' || isLineEnd c then 0 else cellLength cs + 1

def trimGap (cs : List Char) : List Char := (cs.reverse.dropWhile isGap).reverse

def rowCells : Nat → List Char → List (List Char)
  | 0, _ => []
  | fuel + 1, cs =>
    let cs := if cs.head? == some '|' then cs.drop 1 else cs
    let cs := cs.drop (gapLength cs)
    if (lineEnd? cs).isSome then []
    else
      let n := cellLength cs
      trimGap (cs.take n) :: rowCells fuel (cs.drop n)

/-- Rows have as many cells as the table has columns: extra ones are dropped, missing ones empty. -/
def fitRow (columns : Nat) (cells : List (List Char)) : List (List Char) :=
  cells.take columns ++ List.replicate (columns - cells.length) []

/-- A table stops where it would have to be filled with more empty cells than this. -/
def maxFilledCells : Nat := Nat.pow 2 18

end Folio.Markdown
