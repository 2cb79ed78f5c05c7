import Folio.Markdown.Line

set_option autoImplicit false

namespace Folio.Markdown

def runLength (c : Char) (cs : List Char) : Nat := countWhile (· == c) cs

/-- Counts marks `c` among blanks up to the line end; other characters rule a break out. -/
def breakMarks (c : Char) (marks length : Nat) : List Char → Option (Nat × Nat)
  | [] => some (marks, length)
  | d :: cs =>
    if d == '\n' || d == '\r' then some (marks, length + (lineEnd? (d :: cs)).getD 0)
    else if d == c then breakMarks c (marks + 1) (length + 1) cs
    else if d == ' ' || d == '\t' then breakMarks c marks (length + 1) cs
    else none

def thematicBreak? : List Char → Option Nat
  | [] => none
  | c :: cs =>
    if c == '*' || c == '-' || c == '_' then
      match breakMarks c 0 0 (c :: cs) with
      | some (marks, length) => if 3 ≤ marks then some length else none
      | none => none
    else none

def headingLevel? (cs : List Char) : Option Nat :=
  let n := runLength '#' cs
  let closed := match cs.drop n with
    | [] => true
    | c :: _ => isSpace c
  if closed && 1 ≤ n && n ≤ 6 then some n else none

def underline? : List Char → Option (Nat × Nat)
  | c :: cs =>
    if c == '=' || c == '-' then
      let n := runLength c (c :: cs)
      (blankLine? ((c :: cs).drop n)).map fun b => (if c == '=' then 1 else 2, n + b)
    else none
  | [] => none

/-- Mark and length of the run that opens fenced code. The rest of a line fenced by backticks holds
no backtick. -/
def fence? : List Char → Option (Char × Nat)
  | c :: cs =>
    if c == '\x60' || c == '~' then
      let n := runLength c (c :: cs)
      let info := (c :: cs).drop n
      if n < 3 then none
      else if c == '\x60' && (info.take (lineLength info)).contains c then none
      else some (c, n)
    else none
  | [] => none

def closingFence? (mark : Char) (size : Nat) : List Char → Option Nat
  | [] => some 0
  | c :: cs =>
    let n := runLength mark (c :: cs)
    if n < size then none
    else
      let gap := runLength ' ' ((c :: cs).drop n)
      (lineEnd? ((c :: cs).drop (n + gap))).map fun _ => n + gap

def digitValue (c : Char) : Nat := c.toNat - '0'.toNat

def decimalValue (cs : List Char) : Nat := cs.foldl (fun n c => 10 * n + digitValue c) 0

def isDigit (c : Char) : Bool := '0' ≤ c && c ≤ '9'

def listMark? : List Char → Option (Char × Nat × Nat)
  | c :: cs =>
    if c == '-' || c == '+' || c == '*' then some (c, 0, 1)
    else
      let n := countWhile isDigit (c :: cs)
      if n == 0 || 9 < n then none
      else match (c :: cs).drop n with
        | d :: _ =>
          if d == '.' || d == ')' then some (d, decimalValue ((c :: cs).take n), n + 1) else none
        | [] => none
  | [] => none

structure ListMarker where
  delimiter : Char
  start : Nat
  indent : Nat
  deriving Repr, DecidableEq

/-- Reads a list marker after `outer` columns of indentation. A marker is followed by a blank or
ends the line; the content stands one to four columns after it. -/
def Margin.listMarker? (m : Margin) (outer : Nat) : Option (ListMarker × Margin) :=
  match listMark? m.rest with
  | none => none
  | some (delimiter, start, width) =>
    if (thematicBreak? m.rest).isSome then none
    else
      let (spaced, m) := (m.skip width).take 1
      if spaced || m.atLineEnd then
        let indent := outer + width + 1
        if isBlankLine m.rest then some (⟨delimiter, start, indent⟩, m)
        else
          let (n, m') := m.takeUpTo 4
          if n < 4 then some (⟨delimiter, start, indent + n⟩, m')
          else some (⟨delimiter, start, indent⟩, m)
      else none

def Margin.quoteMarker? (m : Margin) : Option Margin :=
  match m.rest with
  | '>' :: _ => some ((m.skip 1).take 1).2
  | _ => none

/-- Whether a list marker may end a paragraph: bullets and the number 1, with content on the same
line. With `loosely`, any marker may. -/
def listInterrupts (loosely : Bool) (cs : List Char) : Bool :=
  match listMark? cs with
  | none => false
  | some (delimiter, start, width) =>
    let after := cs.drop width
    let spaced := match after with
      | [] => true
      | c :: _ => c == ' ' || c == '\t' || isLineEnd c
    let bullet := delimiter == '-' || delimiter == '+' || delimiter == '*'
    spaced && (loosely || ((bullet || start == 1) && !isBlankLine after))

end Folio.Markdown
