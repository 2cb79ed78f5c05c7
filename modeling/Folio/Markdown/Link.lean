import Folio.Text.CaseFold
import Folio.Markdown.Entity
/-!
The parts of links: labels, destinations and titles, link reference definitions, and the targets
written between angle brackets. Each reader takes the text from its first character on and tells
how many characters it used.
-/
set_option autoImplicit false

namespace Folio.Markdown

def maxNesting : Nat := 6

def pointedDestination? (used : Nat) : List Char → Option (Nat × List Char)
  | [] => none
  | '\\' :: d :: cs =>
    if Text.isAsciiPunctuation d then
      (pointedDestination? (used + 2) cs).map fun (n, t) => (n, '\\' :: d :: t)
    else (pointedDestination? (used + 1) (d :: cs)).map fun (n, t) => (n, '\\' :: t)
  | c :: cs =>
    if c == '\n' || c == '\r' || c == '<' then none
    else if c == '>' then some (used + 1, [])
    else (pointedDestination? (used + 1) cs).map fun (n, t) => (n, c :: t)

def plainDestination? (used depth : Nat) : List Char → Option (Nat × List Char)
  | [] => if depth == 0 then some (used, []) else none
  | '\\' :: d :: cs =>
    if Text.isAsciiPunctuation d then
      (plainDestination? (used + 2) depth cs).map fun (n, t) => (n, '\\' :: d :: t)
    else (plainDestination? (used + 1) depth (d :: cs)).map fun (n, t) => (n, '\\' :: t)
  | c :: cs =>
    if c.toNat ≤ 32 then (if depth == 0 then some (used, []) else none)
    else if c == '(' then
      if maxNesting ≤ depth then none
      else (plainDestination? (used + 1) (depth + 1) cs).map fun (n, t) => (n, c :: t)
    else if c == ')' then
      match depth with
      | 0 => some (used, [])
      | depth + 1 => (plainDestination? (used + 1) depth cs).map fun (n, t) => (n, c :: t)
    else (plainDestination? (used + 1) depth cs).map fun (n, t) => (n, c :: t)

def destination? : List Char → Option (Nat × List Char)
  | '<' :: cs => pointedDestination? 1 cs
  | cs => plainDestination? 0 0 cs

def titleEnd? (mark close : Char) (used : Nat) : List Char → Option Nat
  | [] => none
  | '\\' :: d :: cs =>
    if Text.isAsciiPunctuation d then titleEnd? mark close (used + 2) cs
    else titleEnd? mark close (used + 1) (d :: cs)
  | c :: cs =>
    if c == close then some (used + 1)
    else if c == mark then none
    else titleEnd? mark close (used + 1) cs

def title? : List Char → Option Nat
  | c :: cs =>
    if c == '\'' || c == '"' then titleEnd? c c 1 cs
    else if c == '(' then titleEnd? c ')' 1 cs
    else none
  | [] => none

structure LabelScan where
  used : Nat
  text : List Char
  solid : Bool

/-- Blanks inside a label: a run of several, or one with a line end, counts as one space. At most
one line end may stand in a run, and `steep` says whether a line indented by four columns may
follow it. -/
def labelGap? (steep : Bool) (gap : List Char) : Option (List Char) :=
  let ends := gap.countP isLineEnd
  let margin := (gap.dropWhile (!isLineEnd ·)).drop 1
  if 1 < ends then none
  else if ends == 1 && !steep && 4 ≤ ((Margin.ofPlace ⟨0, margin⟩).takeUpTo 4).1 then none
  else if ends == 1 || 1 < gap.length then some [' ']
  else some gap

def labelFrom? (inTable steep : Bool) : Nat → LabelScan → List Char → Option LabelScan
  | 0, _, _ => none
  | _, _, [] => none
  | fuel + 1, s, c :: cs =>
    if 1000 ≤ s.used then none
    else if c == '[' then none
    else if c == ']' then (if s.solid then some { s with used := s.used + 1 } else none)
    else if c == '\\' then
      match cs with
      | [] => none
      | d :: rest =>
        if inTable && d == '|' then
          labelFrom? inTable steep fuel ⟨s.used + 2, '|' :: s.text, true⟩ rest
        else labelFrom? inTable steep fuel ⟨s.used + 2, d :: '\\' :: s.text, true⟩ rest
    else if isSpace c then
      let gap := (c :: cs).takeWhile isSpace
      match labelGap? steep gap with
      | none => none
      | some written =>
        labelFrom? inTable steep fuel ⟨s.used + gap.length, written.reverse ++ s.text, s.solid⟩
          ((c :: cs).drop gap.length)
    else labelFrom? inTable steep fuel ⟨s.used + 1, c :: s.text, true⟩ cs

def normalLabel (cs : List Char) : List Char :=
  Text.fold ((cs.dropWhile isSpace).reverse.dropWhile isSpace).reverse

def label? (inTable steep : Bool) (cs : List Char) : Option (Nat × List Char) :=
  (labelFrom? inTable steep (cs.length + 1) ⟨0, [], false⟩ cs).map fun s =>
    (s.used, normalLabel s.text.reverse)

structure Definition where
  label : List Char
  destination : List Char
  deriving Repr, DecidableEq

/-- Blanks with at most one line end, followed by something. The pair is their length and the
number of line ends. -/
def separator? (cs : List Char) : Option (Nat × Nat) :=
  let n := gapLength cs
  match cs.drop n with
  | [] => none
  | c :: rest =>
    if isLineEnd c then
      let m := gapLength rest
      if isBlankLine rest then none else some (n + 1 + m, 1)
    else some (n, 0)

/-- A definition at the start of a paragraph, with the length up to the end of its last line. -/
def definition? (cs : List Char) : Option (Definition × Nat) :=
  match cs with
  | '[' :: afterBracket =>
    match label? false false afterBracket with
    | none => none
    | some (labelLength, label) =>
      match afterBracket.drop labelLength with
      | ':' :: afterColon =>
        match separator? afterColon with
        | none => none
        | some (gap, _) =>
          match destination? (afterColon.drop gap) with
          | none => none
          | some (0, _) => none
          | some (n, raw) =>
            let rest := (afterColon.drop gap).drop n
            let used := 1 + labelLength + 1 + gap + n
            let definition := ⟨label, unescape false raw⟩
            match separator? rest with
            | none => if isBlankLine rest then some (definition, used + gapLength rest) else none
            | some (0, 0) => none
            | some (gap, lines) =>
              let plain := if lines == 0 then none else some (definition, used + gapLength rest)
              match title? (rest.drop gap) with
              | none => plain
              | some m =>
                let tail := rest.drop (gap + m)
                if isBlankLine tail then some (definition, used + gap + m + gapLength tail) else plain
      | _ => none
  | _ => none

def findDefinition? (definitions : List Definition) (label : List Char) : Option (List Char) :=
  (definitions.find? (·.label == label)).map (·.destination)

def uriTarget? (cs : List Char) : Option (Nat × List Char) :=
  match cs with
  | c :: _ =>
    let n := countWhile (fun c => isAlphanumeric c || c == '.' || c == '-' || c == '+') cs
    if isLetter c && 2 ≤ n && n ≤ 32 && cs[n]? == some ':' then
      let m := countWhile (fun c => 32 < c.toNat && c != '<' && c != '>') (cs.drop (n + 1))
      let target := cs.take (n + 1 + m)
      if cs[n + 1 + m]? == some '>' then some (n + 1 + m + 1, target) else none
    else none
  | [] => none

def isMailbox (c : Char) : Bool :=
  isAlphanumeric c || ".!#$%&'*+/=?^_\x60\x7b|\x7d~-".toList.contains c

def hostLength? : Nat → List Char → Option Nat
  | 0, _ => none
  | fuel + 1, cs =>
    let label := cs.takeWhile fun c => isAlphanumeric c || c == '-'
    let n := label.length
    if n == 0 || 63 < n || label.head? == some '-' || label.getLast? == some '-' then none
    else match cs.drop n with
      | '.' :: rest => (hostLength? fuel rest).map (n + 1 + ·)
      | _ => some n

def mailTarget? (cs : List Char) : Option (Nat × List Char) :=
  let n := countWhile isMailbox cs
  if n == 0 || cs[n]? != some '@' then none
  else match hostLength? cs.length (cs.drop (n + 1)) with
    | none => none
    | some m =>
      if cs[n + 1 + m]? == some '>' then some (n + 1 + m + 1, cs.take (n + 1 + m)) else none

def bareTarget? (cs : List Char) : Option (Nat × List Char) :=
  match uriTarget? cs with
  | some r => some r
  | none => mailTarget? cs

end Folio.Markdown
