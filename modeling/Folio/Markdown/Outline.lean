import Folio.Markdown.Leaf

set_option autoImplicit false

namespace Folio.Markdown

structure Open where
  container : Container
  blocks : List Block

/-- `spine` is innermost first. `blank` says that the last line read was blank, `bare` that the
innermost item has only its marker so far. -/
structure Outline where
  spine : List Open
  blocks : List Block
  blank : Bool
  bare : Bool
  definitions : List Definition

def Outline.empty : Outline := ⟨[], [], false, false, []⟩

def Outline.containers (o : Outline) : List Container := (o.spine.map (·.container)).reverse

def Outline.append (o : Outline) (b : Block) : Outline :=
  match o.spine with
  | [] => { o with blocks := b :: o.blocks }
  | top :: rest => { o with spine := { top with blocks := b :: top.blocks } :: rest }

def Outline.push (o : Outline) (c : Container) : Outline :=
  { o with spine := ⟨c, []⟩ :: o.spine }

def Outline.close (o : Outline) : Outline :=
  match o.spine with
  | [] => o
  | top :: rest => { o with spine := rest }.append (top.container.close top.blocks.reverse)

def Outline.closeN (o : Outline) : Nat → Outline
  | 0 => o
  | n + 1 => o.close.closeN n

/-- A blank line between two blocks of an item makes its list loose. -/
def Outline.loosen (o : Outline) : Outline :=
  match o.spine with
  | top :: ⟨.list _ d s, bs⟩ :: rest => { o with spine := top :: ⟨.list false d s, bs⟩ :: rest }
  | _ => o

/-- Closes a list whose item has ended, before a block that is no item of it. -/
def Outline.finishList (o : Outline) : Outline :=
  let o := match o.spine with
    | ⟨.list .., _⟩ :: _ => o.close
    | _ => o
  if o.blank then { o.loosen with blank := false } else o

/-- Makes the list of a new item the innermost container: the one just left, if its marker agrees,
or a new one. -/
def Outline.continueList (o : Outline) (marker : ListMarker) : Outline :=
  match o.spine with
  | ⟨.list tight d s, bs⟩ :: rest =>
    if d == marker.delimiter then
      { o with spine := ⟨.list (tight && !o.blank) d s, bs⟩ :: rest, blank := false }
    else { o.finishList.push (.list true marker.delimiter marker.start) with blank := false }
  | [] => { o.push (.list true marker.delimiter marker.start) with blank := false }
  | _ => { o.finishList.push (.list true marker.delimiter marker.start) with blank := false }

/-- Opens the containers whose marks stand here. A place is returned when the line ends with a list
marker. -/
def openContainers : Nat → Outline → Margin → Outline × Margin × Option Place
  | 0, o, m => (o, m, none)
  | fuel + 1, o, m =>
    let (outer, inner) := m.takeUpTo 4
    if 4 ≤ outer then (o, m, none)
    else match inner.listMarker? outer with
      | some (marker, after) =>
        let o := (o.continueList marker).push (.item marker.indent)
        match blankLine? after.rest with
        | some k => ({ o with bare := true }, after, some (after.place.advance k))
        | none => openContainers fuel o after
      | none =>
        match inner.quoteMarker? with
        | some after => openContainers fuel (o.finishList.push .quote) after
        | none => (o, m, none)

/-- A blank line. An item that starts with two blank lines has no content. -/
def Outline.blankLine (o : Outline) : Outline :=
  match o.spine with
  | ⟨.quote, _⟩ :: _ => o
  | ⟨.item _, _⟩ :: _ => { (if o.bare then o.close else o) with blank := true, bare := false }
  | _ => { o with blank := true }

/-- Reads a leaf. The margin stands after the marks of all containers on a line that is not blank. -/
def Outline.readLeaf (o : Outline) (m : Margin) : Outline × Place :=
  let (indent, m) := m.takeUpTo 4
  let p := m.place
  let o := o.finishList
  let open_ := o.containers
  if indent == 4 then
    let (b, blank, q) := readIndented open_ p m.spare
    ({ o.append b with blank := blank }, q)
  else
    let afterAngle := match p.rest with
      | '<' :: cs => some cs
      | _ => none
    match afterAngle.bind verbatimEnd? with
    | some stop => (o.append .html, htmlThrough open_ stop.toList (p.rest.length + 1) p)
    | none =>
      if (afterAngle.map opensBlockElement).getD false || isTagLine p.rest then
        (o.append .html, htmlUntilBlank open_ (p.rest.length + 1) p)
      else match thematicBreak? p.rest with
        | some k => (o.append .rule, p.advance k)
        | none =>
          match headingLevel? p.rest with
          | some level =>
            let (b, q) := readHeading level p
            (o.append b, q)
          | none =>
            match fence? p.rest with
            | some (mark, size) =>
              let (b, q) := readFenced open_ indent mark size p
              (o.append b, q)
            | none =>
              match readProse open_ p with
              | (.definition d, q) => ({ o with definitions := o.definitions ++ [d] }, q)
              | (.block b, q) => (o.append b, q)

def Outline.step (o : Outline) (p : Place) : Outline × Place :=
  let (n, m) := continuedBy (.ofPlace p) o.containers
  let o := o.closeN (o.spine.length - n)
  match openContainers (p.rest.length + 1) o m with
  | (o, _, some q) => (o, q)
  | (o, m, none) =>
    match Markdown.blankLine? m.rest with
    | some k => (o.blankLine, m.place.advance k)
    | none => { o with bare := false }.readLeaf m

def Outline.run : Nat → Outline → Place → Outline
  | 0, o, _ => o
  | fuel + 1, o, p =>
    if p.rest.isEmpty then o
    else
      let (o, q) := o.step p
      o.run fuel q

def readBlocks (text : List Char) : List Block × List Definition :=
  let o := Outline.empty.run (text.length + 1) ⟨0, text⟩
  let o := o.closeN o.spine.length
  (o.blocks.reverse, o.definitions)

end Folio.Markdown
