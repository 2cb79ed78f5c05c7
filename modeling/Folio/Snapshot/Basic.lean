set_option autoImplicit false

namespace Folio.Snapshot

/-- A part of a paragraph; one without text is an inline object. -/
structure Run where
  start : Nat
  stop : Nat
  text : Option String
  deriving Repr, DecidableEq

mutual

/-- An element of a document or cell: a paragraph, a table, or a break that is neither. -/
inductive Element where
  | mk (start stop : Nat) (paragraph : Option (List Run)) (table : Option Table)

/-- `rows` and `columns` are what the service declares. -/
inductive Table where
  | mk (rows columns : Nat) (tableRows : List Row)

inductive Row where
  | mk (start stop : Nat) (cells : List Cell)

inductive Cell where
  | mk (start stop : Nat) (content : List Element)

end

namespace Element

def start : Element → Nat
  | mk s _ _ _ => s

def stop : Element → Nat
  | mk _ s _ _ => s

def paragraph : Element → Option (List Run)
  | mk _ _ p _ => p

def table : Element → Option Table
  | mk _ _ _ t => t

def text (e : Element) : String :=
  match e.paragraph with
  | some runs => String.join (runs.filterMap (·.text))
  | none => ""

end Element

namespace Table

def rows : Table → Nat
  | mk r _ _ => r

def columns : Table → Nat
  | mk _ c _ => c

def tableRows : Table → List Row
  | mk _ _ rs => rs

end Table

namespace Row

def start : Row → Nat
  | mk s _ _ => s

def stop : Row → Nat
  | mk _ s _ => s

def cells : Row → List Cell
  | mk _ _ cs => cs

end Row

namespace Cell

def start : Cell → Nat
  | mk s _ _ => s

def stop : Cell → Nat
  | mk _ s _ => s

def content : Cell → List Element
  | mk _ _ es => es

/-- Where text written into the cell lands. -/
def contentStart (c : Cell) : Nat :=
  match c.content with
  | e :: _ => e.start
  | [] => c.start + 1

/-- A cell is blank if it holds nothing but line feeds. -/
def isBlank (c : Cell) : Bool :=
  c.content.all fun e => e.table.isNone && e.text.toList.all (· == '\n')

end Cell

/-- The shape that a table really has: its rows, and the cells of its widest row. -/
def Table.shape (t : Table) : Nat × Nat :=
  (t.tableRows.length, (t.tableRows.map (·.cells.length)).foldl max 0)

end Snapshot

structure Snapshot where
  documentId : String
  title : String
  content : List Snapshot.Element

namespace Snapshot

/-- The tables that are in no other table, in order. -/
def tables (s : Snapshot) : List Table := s.content.filterMap (·.table)

def endIndex (s : Snapshot) : Nat :=
  match s.content.getLast? with
  | some e => e.stop
  | none => 1

end Snapshot

end Folio
