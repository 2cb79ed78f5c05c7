import Folio.Document.Frame
import Folio.Hash.Blake3

set_option autoImplicit false

namespace Folio

def fingerprintLength : Nat := 12

def fingerprint (source : String) : String :=
  String.ofList ((Text.hexOfBytes (Blake3.hash source.toUTF8.toList)).take fingerprintLength)

structure Document where
  root : Node
  fingerprint : String
  deriving Repr

namespace Document

def ofNodes (nodes : List Node) : Document :=
  ⟨((Node.new .document nodes).number 0).1, Folio.fingerprint ""⟩

/-- Records the text that a document was read from. Its hash tells the markers of the document apart
from text of the author that looks like one. -/
def withSource (d : Document) (source : String) : Document :=
  { d with fingerprint := Folio.fingerprint source }

def ofMarkdown [Markdown.Parser] (markdown : String) : Document :=
  (ofNodes ((nodes? (Markdown.events markdown)).get (nodes?_events_isSome markdown))).withSource markdown

def nodes (d : Document) : List Node := d.root.descendants

def size (d : Document) : Nat := d.root.size

def isEmpty (d : Document) : Bool := d.root.children.isEmpty

def find? (d : Document) (id : Nat) : Option Node := d.nodes.find? (·.id == id)

def tables (d : Document) : List Node := d.nodes.filter (·.kind.isTable)

end Document

end Folio
