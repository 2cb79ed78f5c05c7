import Folio.Text.Punctuation

set_option autoImplicit false

namespace Folio.Markdown

inductive Inline where
  | text (value : List Char)
  | code (value : List Char)
  | html
  | softBreak
  | hardBreak
  | emphasis (children : List Inline)
  | strong (children : List Inline)
  | strikethrough (children : List Inline)
  | link (url : List Char) (children : List Inline)
  | image (url : List Char) (children : List Inline)
  deriving Repr, Inhabited

structure Run where
  mark : Char
  length : Nat
  opens : Bool
  closes : Bool
  deriving Repr, DecidableEq

def Run.both (r : Run) : Bool := r.opens && r.closes

/-- Whether a run may open and close, given the characters beside it in its line. Asterisks and
paired tildes may stand inside a word. -/
def flankedRun (mark : Char) (length : Nat) (before after : Option Char) : Run :=
  let blankAfter := match after with
    | none => true
    | some c => Text.isBlank c
  let opens := !blankAfter &&
    match before, after with
    | none, _ => true
    | some b, some a =>
      (mark == '*' && !Text.isPunctuation a) || (mark == '~' && 1 < length) ||
        (mark == '~' && b == '~' && !Text.isPunctuation a) || Text.isBlank b || Text.isPunctuation b
    | some _, none => false
  let closes := match before with
    | none => false
    | some b =>
      !Text.isBlank b &&
        match after with
        | none => true
        | some a =>
          ((mark == '*' || (mark == '~' && 1 < length)) && !Text.isPunctuation b) ||
            (mark == '~' && b == '~') || Text.isBlank a || Text.isPunctuation a
  ⟨mark, length, opens, closes⟩

/-- Content with emphasis still to be paired. -/
inductive Piece where
  | node (i : Inline)
  | run (r : Run)
  deriving Repr

/-- An open run with `count` marks left, and what follows it, last first. -/
structure OpenRun where
  run : Run
  count : Nat
  inner : List Inline

structure Pairing where
  openRuns : List OpenRun
  outer : List Inline

def marksText (r : Run) (count : Nat) : Inline := .text (List.replicate count r.mark)

def Pairing.push (p : Pairing) (i : Inline) : Pairing :=
  match p.openRuns with
  | [] => { p with outer := i :: p.outer }
  | top :: rest => { p with openRuns := { top with inner := i :: top.inner } :: rest }

/-- Lengths of runs that could both open and close must not add up to a multiple of three, unless
both are one. -/
def Run.pairsWith (opener closer : Run) : Bool :=
  opener.mark == closer.mark && (closer.mark != '~' || opener.length == closer.length) &&
    ((!closer.both && !opener.both) || (closer.length + opener.length) % 3 != 0 ||
      closer.length % 3 == 0)

/-- Finds the nearest open run that matches. The runs passed over become text in front of `after`,
the content read since, last first. -/
def takeOpener (closer : Run) (after : List Inline) :
    List OpenRun → Option (OpenRun × List Inline × List OpenRun)
  | [] => none
  | top :: rest =>
    let content := after ++ top.inner
    if top.run.pairsWith closer then some (top, content, rest)
    else takeOpener closer (content ++ [marksText top.run top.count]) rest

def wrapMarks (mark : Char) : Nat → List Inline → List Inline
  | 0, content => content
  | 1, content => [if mark == '~' then .strikethrough content else .emphasis content]
  | count + 2, content =>
    if mark == '~' then [.strikethrough content]
    else wrapMarks mark count [.strong content]

def closeRun (r : Run) : Nat → Nat → Pairing → Nat × Pairing
  | 0, count, p => (count, p)
  | fuel + 1, count, p =>
    if count == 0 then (0, p)
    else match takeOpener r [] p.openRuns with
      | none => (count, p)
      | some (opener, content, rest) =>
        let used := min count opener.count
        let wrapped := wrapMarks r.mark used content.reverse
        let p :=
          if used < opener.count then
            { p with openRuns := { opener with count := opener.count - used, inner := wrapped.reverse } :: rest }
          else wrapped.foldl Pairing.push { p with openRuns := rest }
        closeRun r fuel (count - used) p

def Pairing.step (p : Pairing) : Piece → Pairing
  | .node i => p.push i
  | .run r =>
    let (count, p) := if r.closes then closeRun r (r.length + 1) r.length p else (r.length, p)
    if count == 0 then p
    else if r.opens then { p with openRuns := ⟨r, count, []⟩ :: p.openRuns }
    else p.push (marksText r count)

def flattenRuns (after : List Inline) : List OpenRun → List Inline
  | [] => after
  | top :: rest => flattenRuns (after ++ top.inner ++ [marksText top.run top.count]) rest

def pairEmphasis (pieces : List Piece) : List Inline :=
  let p := pieces.foldl Pairing.step ⟨[], []⟩
  (flattenRuns [] p.openRuns ++ p.outer).reverse

end Folio.Markdown
