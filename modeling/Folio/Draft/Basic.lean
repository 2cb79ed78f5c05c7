import Folio.Edit.Request
import Folio.Table.Plan
import Folio.Text.Utf16
/-!
A document as it is being drafted: the requests so far, and where the next character will land. Every
insertion moves the cursor past what it inserts, so each lands behind all that came before it.
-/
set_option autoImplicit false

namespace Folio

open Edit

/-- A position in a remote document, counted in UTF-16 code units. -/
structure Cursor where
  index : Nat
  deriving Repr, DecidableEq

namespace Cursor

/-- Content begins behind the implicit start of the document. -/
def start : Cursor := ⟨1⟩

def advance (c : Cursor) (units : Nat) : Cursor := ⟨c.index + units⟩

def advancePast (c : Cursor) (text : String) : Cursor := c.advance (Text.units text)

end Cursor

structure Draft where
  cursor : Cursor
  /-- Last first. -/
  edits : List Request
  tables : List TablePlan
  deriving Repr

namespace Draft

def startingAt (c : Cursor) : Draft := ⟨c, [], []⟩

def empty : Draft := startingAt .start

def requests (d : Draft) : List Request := d.edits.reverse

def plans (d : Draft) : List TablePlan := d.tables.reverse

def index (d : Draft) : Nat := d.cursor.index

def push (d : Draft) (r : Request) : Draft := { d with edits := r :: d.edits }

def insert (d : Draft) (text : String) : Draft :=
  if text.isEmpty then d
  else { (d.push (.insertText d.index text)) with cursor := d.cursor.advancePast text }

def terminate (d : Draft) : Draft := d.insert "\n"

/-- An inline image takes one position. -/
def insertImage (d : Draft) (uri : String) (size : Option Size) : Draft :=
  { (d.push (.insertImage d.index uri size)) with cursor := d.cursor.advance 1 }

def styleSince (d : Draft) (start : Nat) (style : TextStyle) : Draft :=
  if (Range.mk start d.index).isEmpty then d else d.push (.text ⟨start, d.index⟩ style)

def headingSince (d : Draft) (start : Nat) (level : HeadingLevel) : Draft :=
  d.push (.heading ⟨start, d.index⟩ level)

/-- Records a table that is left for later; its ordinal is the number of those before it. -/
def planTable (d : Draft) (node : Node) : Draft :=
  { d with tables := .ofNode d.tables.length node :: d.tables }

end Draft

end Folio
