import Folio.Export.Process
import Folio.Proofs.Remote.Content
/-!
What a snapshot of a document has to say. `reading` goes through a document from its end to its
start and builds the elements that stand behind each position; how a service cuts the text of a
paragraph into runs is left open (`Snapshot.outline`), all positions are not.
-/
set_option autoImplicit false

namespace Folio

namespace Snapshot

def Element.line (start stop : Nat) (text : String) : Element :=
  .mk start stop (some [⟨start, stop, some text⟩]) none

mutual

/-- A snapshot without the cuts between the runs of its paragraphs. -/
def Element.outline : Element → Element
  | .mk start stop paragraph table =>
    .mk start stop
      (paragraph.map fun _ => [⟨start, stop, some (Element.mk start stop paragraph none).text⟩])
      (match table with
        | none => none
        | some t => some t.outline)

def Table.outline : Table → Table
  | .mk rows columns tableRows => .mk rows columns (rowsOutline tableRows)

def Row.outline : Row → Row
  | .mk start stop cells => .mk start stop (cellsOutline cells)

def Cell.outline : Cell → Cell
  | .mk start stop content => .mk start stop (elementsOutline content)

def elementsOutline : List Element → List Element
  | [] => []
  | e :: es => e.outline :: elementsOutline es

def rowsOutline : List Row → List Row
  | [] => []
  | r :: rs => r.outline :: rowsOutline rs

def cellsOutline : List Cell → List Cell
  | [] => []
  | c :: cs => c.outline :: cellsOutline cs

end

theorem elementsOutline_eq_map (es : List Element) :
    elementsOutline es = es.map Element.outline := by
  induction es with
  | nil => rfl
  | cons e es ih => simp [elementsOutline, ih]

theorem cellsOutline_eq_map (cs : List Cell) : cellsOutline cs = cs.map Cell.outline := by
  induction cs with
  | nil => rfl
  | cons c cs ih => simp [cellsOutline, ih]

theorem rowsOutline_eq_map (rs : List Row) : rowsOutline rs = rs.map Row.outline := by
  induction rs with
  | nil => rfl
  | cons r rs ih => simp [rowsOutline, ih]

def Element.isBreak (e : Element) : Bool := e.paragraph.isNone && e.table.isNone

end Snapshot

/-- What a snapshot says of its document, breaks left out. -/
def Snapshot.outline (s : Snapshot) : List Snapshot.Element :=
  Snapshot.elementsOutline (s.content.filter (!·.isBreak))

namespace Remote

open Edit
open Snapshot (Cell Row)

/-- The rest of a table from some position on: the elements up to the end of the cell there, the
cells up to the end of the row, and the rows. -/
structure Layer where
  elements : List Snapshot.Element
  cells : List Cell
  rows : List Row
  stop : Nat

/-- The document from some position on; `outer` has what follows the tables around it. -/
structure Reading extends Layer where
  outer : List Layer

/-- Puts text before some elements. A paragraph that they begin with goes on to the left. -/
def join (p : Nat) (text : String) : List Snapshot.Element → List Snapshot.Element
  | [] => [.line p (p + 1) text]
  | e :: es =>
    if e.paragraph.isSome then
      .mk p e.stop (some [⟨p, e.stop, some (text ++ e.text)⟩]) e.table :: es
    else .line p (p + 1) text :: e :: es

namespace Layer

def rowStop (l : Layer) : Nat :=
  match l.rows with
  | r :: _ => r.start
  | [] => l.stop - 1

def cellStop (l : Layer) : Nat :=
  match l.cells with
  | c :: _ => c.start
  | [] => l.rowStop

def table (p : Nat) (l : Layer) : Snapshot.Element :=
  .mk p l.stop none
    (some (.mk l.rows.length ((l.rows.map (·.cells.length)).foldl max 0) l.rows))

end Layer

namespace Reading

def add (e : Snapshot.Element) (r : Reading) : Reading := { r with elements := e :: r.elements }

/-- One more position to the left. Only a line feed ends a paragraph. -/
def step (p : Nat) : Glyph → Reading → Reading
  | .char c, r =>
    if c = '\n' then r.add (.line p (p + 1) "\n")
    else { r with elements := join p (String.singleton c) r.elements }
  | .trail, r | .image .., r => { r with elements := join p "" r.elements }
  | .tableStop, r => ⟨⟨[], [], [], p + 1⟩, r.toLayer :: r.outer⟩
  | .cellStart, r => { r with elements := [], cells := .mk p r.cellStop r.elements :: r.cells }
  | .rowStart, r => { r with cells := [], rows := .mk p r.rowStop r.cells :: r.rows }
  | .tableStart, r =>
    match r.outer with
    | [] => r
    | l :: ls => add (r.table p) ⟨l, ls⟩

end Reading

def read (p : Nat) : List Glyph → Reading
  | [] => ⟨⟨[], [], [], p⟩, []⟩
  | g :: gs => (read (p + 1) gs).step p g

def glyphs (c : Content) : List Glyph := c.map (·.glyph)

def reading (c : Content) : List Snapshot.Element := (read 1 (glyphs c)).elements

/-- A document service, as far as it matters how it shows a document. -/
structure Service where
  fetch : String → Content → Snapshot
  exact : ∀ document c, (fetch document c).outline = reading c

namespace Service

/-- The service keeps one document. A batch that does not fit it is refused and changes nothing;
there are no pictures. -/
def answer (service : Service) : (c : Call) → StateM Content c.Reply
  | .acquire | .release | .mount _ | .enter _ => pure ()
  | .mounted => pure none
  | .render .. => pure (.error .transport)
  | .capture .. => pure (.error .nothingMounted)
  | .upload _ => pure (.error .transport)
  | .create title => fun _ => (.ok title, [])
  | .commit _ requests => fun c =>
    match carryOut requests c with
    | some c' => (.ok (), c')
    | none => (.error (.api 400 "invalid request" none), c)
  | .fetch document => fun c => (.ok (service.fetch document c), c)

def run {α : Type} (service : Service) (p : Process α) (c : Content) : α × Content :=
  (p.run service.answer).run c

variable {α β : Type}

@[simp] theorem run_pure (service : Service) (a : α) (c : Content) :
    service.run (pure a) c = (a, c) := rfl

theorem run_bind (service : Service) (p : Process α) (f : α → Process β) (c : Content) :
    service.run (p >>= f) c = service.run (f (service.run p c).1) (service.run p c).2 := by
  have h := Process.run_bind service.answer p f
  exact congrFun h c

theorem run_fetch_bind (service : Service) (document : String)
    (f : Except ServiceError Snapshot → Process β) (c : Content) :
    service.run (Process.call (.fetch document) >>= f) c =
      service.run (f (.ok (service.fetch document c))) c :=
  run_bind service (Process.call (.fetch document)) f c

theorem run_commit_bind (service : Service) (document : String) {requests : List Request}
    (f : Except ServiceError Unit → Process β) {c c' : Content}
    (h : carryOut requests c = some c') :
    service.run (Process.call (.commit document requests) >>= f) c =
      service.run (f (.ok ())) c' := by
  have hcommit : service.run (Process.call (.commit document requests)) c = (.ok (), c') := by
    simp [run, Process.call, Process.run, answer, h, StateT.run]
  have hbind := run_bind service (Process.call (.commit document requests)) f c
  rw [hcommit] at hbind
  exact hbind

end Service

structure Shown (e : Snapshot.Element) : Prop where
  outline : e.outline = e
  content : e.isBreak = false

structure Layer.Shown (l : Layer) : Prop where
  elements : ∀ e ∈ l.elements, Remote.Shown e
  cells : ∀ c ∈ l.cells, c.outline = c
  rows : ∀ r ∈ l.rows, r.outline = r

structure Reading.Shown (r : Reading) : Prop extends r.toLayer.Shown where
  outer : ∀ l ∈ r.outer, l.Shown

theorem shown_paragraph (start stop : Nat) (text : String) {table : Option Snapshot.Table}
    (h : table.map Snapshot.Table.outline = table) :
    Shown (.mk start stop (some [⟨start, stop, some text⟩]) table) := by
  constructor
  · cases table with
    | none => simp [Snapshot.Element.outline, Snapshot.Element.text, Snapshot.Element.paragraph,
        String.join]
    | some t =>
      have ht : t.outline = t := by simpa using h
      simp [Snapshot.Element.outline, Snapshot.Element.text, Snapshot.Element.paragraph,
        String.join, ht]
  · rfl

theorem Shown.table {e : Snapshot.Element} (h : Shown e) :
    e.table.map Snapshot.Table.outline = e.table := by
  have htable := congrArg Snapshot.Element.table h.outline
  obtain ⟨start, stop, paragraph, table⟩ := e
  cases table with
  | none => rfl
  | some t => exact htable

theorem shown_join {es : List Snapshot.Element} (h : ∀ e ∈ es, Shown e) (p : Nat) (text : String) :
    ∀ e ∈ join p text es, Shown e := by
  cases es with
  | nil => exact List.forall_mem_cons.2 ⟨shown_paragraph p (p + 1) text rfl, List.forall_mem_nil _⟩
  | cons e es =>
    rw [List.forall_mem_cons] at h
    rw [join]
    split
    · exact List.forall_mem_cons.2 ⟨shown_paragraph p e.stop _ h.1.table, h.2⟩
    · exact List.forall_mem_cons.2
        ⟨shown_paragraph p (p + 1) text rfl, List.forall_mem_cons.2 h⟩

theorem Layer.Shown.table {l : Layer} (h : l.Shown) (p : Nat) : Remote.Shown (l.table p) := by
  have hrows : Snapshot.rowsOutline l.rows = l.rows := by
    rw [Snapshot.rowsOutline_eq_map, List.map_congr_left h.rows, List.map_id']
  constructor
  · simp only [Layer.table, Snapshot.Element.outline, Snapshot.Table.outline, hrows,
      Option.map_none]
  · rfl

theorem Reading.Shown.step {r : Reading} (h : r.Shown) (p : Nat) (g : Glyph) :
    (r.step p g).Shown := by
  have hjoin : ∀ text, ({ r with elements := join p text r.elements } : Reading).Shown :=
    fun text => ⟨⟨shown_join h.elements p text, h.cells, h.rows⟩, h.outer⟩
  cases g with
  | char c =>
    rw [Reading.step]
    split
    · exact ⟨⟨List.forall_mem_cons.2 ⟨shown_paragraph p (p + 1) "\n" rfl, h.elements⟩, h.cells,
        h.rows⟩, h.outer⟩
    · exact hjoin _
  | trail => exact hjoin ""
  | image uri size => exact hjoin ""
  | tableStop =>
    exact ⟨⟨List.forall_mem_nil _, List.forall_mem_nil _, List.forall_mem_nil _⟩,
      List.forall_mem_cons.2 ⟨h.toShown, h.outer⟩⟩
  | cellStart =>
    have hcell : (Cell.mk p r.cellStop r.elements).outline = .mk p r.cellStop r.elements := by
      have hes : Snapshot.elementsOutline r.elements = r.elements := by
        rw [Snapshot.elementsOutline_eq_map,
          List.map_congr_left fun e he => (h.elements e he).outline, List.map_id']
      simp only [Cell.outline, hes]
    exact ⟨⟨List.forall_mem_nil _, List.forall_mem_cons.2 ⟨hcell, h.cells⟩, h.rows⟩, h.outer⟩
  | rowStart =>
    have hrow : (Row.mk p r.rowStop r.cells).outline = .mk p r.rowStop r.cells := by
      have hcs : Snapshot.cellsOutline r.cells = r.cells := by
        rw [Snapshot.cellsOutline_eq_map, List.map_congr_left h.cells, List.map_id']
      simp only [Row.outline, hcs]
    exact ⟨⟨h.elements, List.forall_mem_nil _, List.forall_mem_cons.2 ⟨hrow, h.rows⟩⟩, h.outer⟩
  | tableStart =>
    rw [Reading.step]
    split
    · exact h
    · rename_i l ls hl
      have houter := h.outer
      rw [hl, List.forall_mem_cons] at houter
      exact ⟨⟨List.forall_mem_cons.2 ⟨h.toShown.table p, houter.1.elements⟩, houter.1.cells,
        houter.1.rows⟩, houter.2⟩

theorem shown_read (p : Nat) (gs : List Glyph) : (read p gs).Shown := by
  induction gs generalizing p with
  | nil =>
    exact ⟨⟨List.forall_mem_nil _, List.forall_mem_nil _, List.forall_mem_nil _⟩,
      List.forall_mem_nil _⟩
  | cons g gs ih => exact (ih (p + 1)).step p g

def Service.reference : Service where
  fetch document c := ⟨document, "", reading c⟩
  exact document c := by
    have h : ∀ e ∈ reading c, Shown e := (shown_read 1 (glyphs c)).elements
    have hfilter : (reading c).filter (!·.isBreak) = reading c :=
      List.filter_eq_self.2 fun e he => by simp [(h e he).content]
    rw [Snapshot.outline, hfilter, Snapshot.elementsOutline_eq_map,
      List.map_congr_left fun e he => (h e he).outline, List.map_id']

end Remote

end Folio
