import Folio.Proofs.Remote.Reading
/-!
The tables that are read in a document. Text and pictures hold none (`tables_plain`). A table whose
cells can be read on their own is read where it stands, row by row and cell by cell
(`read_tableGlyphs`); so a blank table is read as a grid of blank cells, each of them two positions
behind the one before (`read_blankTable`).
-/
set_option autoImplicit false

namespace Folio.Remote

open Edit
open Snapshot (Cell Row Table)

def Glyph.isPlain : Glyph → Bool
  | .char _ | .trail | .image .. => true
  | _ => false

def Reading.tables (r : Reading) : List Snapshot.Table := r.elements.filterMap (·.table)

theorem tables_join (p : Nat) (text : String) (es : List Snapshot.Element) :
    (join p text es).filterMap (·.table) = es.filterMap (·.table) := by
  cases es with
  | nil => rfl
  | cons e es =>
    rw [join]
    split <;> rfl

theorem tables_plain {gs : List Glyph} (h : ∀ g ∈ gs, g.isPlain) (p : Nat) (rest : List Glyph) :
    (read p (gs ++ rest)).tables = (read (p + gs.length) rest).tables := by
  induction gs generalizing p with
  | nil => rfl
  | cons g gs ih =>
    rw [List.forall_mem_cons] at h
    have hstep : (read p (g :: (gs ++ rest))).tables = (read (p + 1) (gs ++ rest)).tables := by
      cases g with
      | char c =>
        rw [read, Reading.step]
        split
        · rfl
        · exact tables_join p _ _
      | trail => exact tables_join p _ _
      | image uri size => exact tables_join p _ _
      | _ => cases h.1
    rw [List.cons_append, hstep, ih h.2, List.length_cons, Nat.add_comm gs.length, Nat.add_assoc]

theorem isPlain_glyphsOf (text : String) : ∀ g ∈ glyphsOf text, g.isPlain := by
  intro g hg
  simp only [glyphsOf, glyphsOfChars, List.mem_flatMap, glyphsOfChar, List.mem_cons,
    List.mem_replicate] at hg
  obtain ⟨c, -, rfl | ⟨-, rfl⟩⟩ := hg <;> rfl

def cellGlyphs (gs : List Glyph) : List Glyph := .cellStart :: gs

def rowGlyphs (cells : List (List Glyph)) : List Glyph := .rowStart :: cells.flatMap cellGlyphs

def tableGlyphs (rows : List (List (List Glyph))) : List Glyph :=
  .tableStart :: (rows.flatMap rowGlyphs ++ [.tableStop])

def cellAt (p : Nat) (gs : List Glyph) : Cell :=
  .mk p (p + (cellGlyphs gs).length) (read (p + 1) gs).elements

def cellsAt (p : Nat) : List (List Glyph) → List Cell
  | [] => []
  | gs :: cells => cellAt p gs :: cellsAt (p + (cellGlyphs gs).length) cells

def rowAt (p : Nat) (cells : List (List Glyph)) : Row :=
  .mk p (p + (rowGlyphs cells).length) (cellsAt (p + 1) cells)

def rowsAt (p : Nat) : List (List (List Glyph)) → List Row
  | [] => []
  | cells :: rows => rowAt p cells :: rowsAt (p + (rowGlyphs cells).length) rows

def tableAt (p : Nat) (rows : List (List (List Glyph))) : Table :=
  .mk (rowsAt (p + 1) rows).length (((rowsAt (p + 1) rows).map (·.cells.length)).foldl max 0)
    (rowsAt (p + 1) rows)

/-- The positions are read the same whatever is around them, up to the end of a cell. -/
def ReadAlone (gs : List Glyph) : Prop :=
  ∀ p rest, (read (p + gs.length) rest).elements = [] →
    read p (gs ++ rest) =
      { read (p + gs.length) rest with elements := (read p gs).elements }

section

variable {cs : List Cell} {rs : List Row} {stop : Nat} {outer : List Layer} {rest : List Glyph}

theorem read_cells {cells : List (List Glyph)} (h : ∀ cell ∈ cells, ReadAlone cell) {p : Nat}
    (hrest : read (p + (cells.flatMap cellGlyphs).length) rest = ⟨⟨[], cs, rs, stop⟩, outer⟩)
    (hstop : (Layer.mk [] cs rs stop).cellStop = p + (cells.flatMap cellGlyphs).length) :
    read p (cells.flatMap cellGlyphs ++ rest) = ⟨⟨[], cellsAt p cells ++ cs, rs, stop⟩, outer⟩ ∧
      (Layer.mk [] (cellsAt p cells ++ cs) rs stop).cellStop = p := by
  induction cells generalizing p with
  | nil => exact ⟨hrest, hstop⟩
  | cons gs cells ih =>
    rw [List.forall_mem_cons] at h
    rw [List.flatMap_cons, List.length_append, ← Nat.add_assoc] at hrest hstop
    obtain ⟨hcells, hcell⟩ := ih h.2 hrest hstop
    refine ⟨?_, rfl⟩
    have hlen : p + (cellGlyphs gs).length = p + 1 + gs.length := by
      rw [cellGlyphs, List.length_cons]
      omega
    have hempty : (read (p + 1 + gs.length) (cells.flatMap cellGlyphs ++ rest)).elements = [] := by
      rw [← hlen, hcells]
    have halone := h.1 (p + 1) _ hempty
    rw [← hlen, hcells] at halone
    rw [List.flatMap_cons, List.append_assoc]
    change (read (p + 1) (gs ++ (cells.flatMap cellGlyphs ++ rest))).step p .cellStart = _
    have hcell' : (Layer.mk (read (p + 1) gs).elements
        (cellsAt (p + (cellGlyphs gs).length) cells ++ cs) rs stop).cellStop =
          p + (cellGlyphs gs).length := hcell
    rw [halone]
    simp only [Reading.step, hcell']
    rfl

theorem read_row {cells : List (List Glyph)} (h : ∀ cell ∈ cells, ReadAlone cell) {p : Nat}
    (hrest : read (p + (rowGlyphs cells).length) rest = ⟨⟨[], [], rs, stop⟩, outer⟩)
    (hstop : (Layer.mk [] [] rs stop).rowStop = p + (rowGlyphs cells).length) :
    read p (rowGlyphs cells ++ rest) = ⟨⟨[], [], rowAt p cells :: rs, stop⟩, outer⟩ := by
  have hlen : p + (rowGlyphs cells).length = p + 1 + (cells.flatMap cellGlyphs).length := by
    rw [rowGlyphs, List.length_cons]
    omega
  rw [hlen] at hrest hstop
  obtain ⟨hcells, -⟩ := read_cells h hrest hstop
  rw [List.append_nil] at hcells
  change (read (p + 1) (cells.flatMap cellGlyphs ++ rest)).step p .rowStart = _
  rw [hcells, rowAt, hlen, ← hstop]
  rfl

theorem read_rows {rows : List (List (List Glyph))}
    (h : ∀ cells ∈ rows, ∀ cell ∈ cells, ReadAlone cell) {p : Nat}
    (hrest : read (p + (rows.flatMap rowGlyphs).length) rest = ⟨⟨[], [], rs, stop⟩, outer⟩)
    (hstop : (Layer.mk [] [] rs stop).rowStop = p + (rows.flatMap rowGlyphs).length) :
    read p (rows.flatMap rowGlyphs ++ rest) = ⟨⟨[], [], rowsAt p rows ++ rs, stop⟩, outer⟩ ∧
      (Layer.mk [] [] (rowsAt p rows ++ rs) stop).rowStop = p := by
  induction rows generalizing p with
  | nil => exact ⟨hrest, hstop⟩
  | cons cells rows ih =>
    rw [List.forall_mem_cons] at h
    rw [List.flatMap_cons, List.length_append, ← Nat.add_assoc] at hrest hstop
    obtain ⟨hrows, hrow⟩ := ih h.2 hrest hstop
    refine ⟨?_, rfl⟩
    rw [List.flatMap_cons, List.append_assoc]
    exact read_row h.1 hrows hrow

end

def tableElement (p : Nat) (rows : List (List (List Glyph))) : Snapshot.Element :=
  .mk p (p + (tableGlyphs rows).length) none (some (tableAt p rows))

theorem read_tableGlyphs {rows : List (List (List Glyph))}
    (h : ∀ cells ∈ rows, ∀ cell ∈ cells, ReadAlone cell) (p : Nat) (gs : List Glyph) :
    read p (tableGlyphs rows ++ gs) =
      (read (p + (tableGlyphs rows).length) gs).add (tableElement p rows) := by
  have hlen : p + (tableGlyphs rows).length = p + 1 + (rows.flatMap rowGlyphs).length + 1 := by
    simp only [tableGlyphs, List.length_cons, List.length_append, List.length_nil]
    omega
  rw [tableElement, hlen]
  generalize hr : read (p + 1 + (rows.flatMap rowGlyphs).length + 1) gs = r
  have hend : read (p + 1 + (rows.flatMap rowGlyphs).length) (.tableStop :: gs) =
      ⟨⟨[], [], [], p + 1 + (rows.flatMap rowGlyphs).length + 1⟩, r.toLayer :: r.outer⟩ := by
    rw [← hr]
    rfl
  obtain ⟨hrows, -⟩ := read_rows h hend rfl
  have hglyphs : tableGlyphs rows ++ gs =
      .tableStart :: (rows.flatMap rowGlyphs ++ .tableStop :: gs) := by
    simp [tableGlyphs]
  rw [hglyphs]
  change (read (p + 1) _).step p .tableStart = _
  rw [hrows, List.append_nil]
  rfl

theorem cellsAt_length (p : Nat) (cells : List (List Glyph)) :
    (cellsAt p cells).length = cells.length := by
  induction cells generalizing p with
  | nil => rfl
  | cons gs cells ih => rw [cellsAt, List.length_cons, List.length_cons, ih]

theorem rowsAt_widths (p : Nat) (rows : List (List (List Glyph))) :
    (rowsAt p rows).map (·.cells.length) = rows.map List.length := by
  induction rows generalizing p with
  | nil => rfl
  | cons cells rows ih =>
    rw [rowsAt, List.map_cons, List.map_cons, ih]
    exact congrArg (· :: _) (cellsAt_length (p + 1) cells)

theorem shape_tableAt (p : Nat) (rows : List (List (List Glyph))) :
    (tableAt p rows).shape = (rows.length, (rows.map List.length).foldl max 0) := by
  have hlength := congrArg List.length (rowsAt_widths (p + 1) rows)
  rw [List.length_map, List.length_map] at hlength
  simp only [Table.shape, tableAt, Table.tableRows, hlength, rowsAt_widths]

def blankCellAt (p : Nat) : Cell := .mk p (p + 2) [.line (p + 1) (p + 2) "\n"]

def blankCellsAt (p : Nat) : Nat → List Cell
  | 0 => []
  | n + 1 => blankCellAt p :: blankCellsAt (p + 2) n

def rowLength (columns : Nat) : Nat := 1 + 2 * columns

def blankRowAt (p columns : Nat) : Row :=
  .mk p (p + rowLength columns) (blankCellsAt (p + 1) columns)

def blankRowsAt (p columns : Nat) : Nat → List Row
  | 0 => []
  | n + 1 => blankRowAt p columns :: blankRowsAt (p + rowLength columns) columns n

def blankTableAt (p rows columns : Nat) : Snapshot.Table :=
  .mk (blankRowsAt (p + 1) columns rows).length
    (((blankRowsAt (p + 1) columns rows).map (·.cells.length)).foldl max 0)
    (blankRowsAt (p + 1) columns rows)

def blankRows (rows columns : Nat) : List (List (List Glyph)) :=
  List.replicate rows (List.replicate columns [.char '\n'])

theorem blankRow_eq (columns : Nat) :
    blankRow columns = rowGlyphs (List.replicate columns [.char '\n']) := by
  rw [rowGlyphs, List.flatMap_replicate]
  rfl

theorem blankTable_eq (rows columns : Nat) :
    blankTable rows columns = tableGlyphs (blankRows rows columns) := by
  rw [tableGlyphs, blankRows, List.flatMap_replicate, ← blankRow_eq]
  rfl

theorem blankRow_length (columns : Nat) : (blankRow columns).length = rowLength columns := by
  simp [blankRow, blankCell, rowLength]
  omega

theorem blankTable_length (rows columns : Nat) :
    (blankTable rows columns).length = 2 + rowLength columns * rows := by
  simp [blankTable, blankRow_length, Nat.mul_comm rows]
  omega

theorem blankCellsAt_eq (p n : Nat) :
    blankCellsAt p n = cellsAt p (List.replicate n [.char '\n']) := by
  induction n generalizing p with
  | zero => rfl
  | succ n ih =>
    rw [blankCellsAt, List.replicate_succ, cellsAt, ih]
    rfl

theorem blankRowAt_eq (p columns : Nat) :
    blankRowAt p columns = rowAt p (List.replicate columns [.char '\n']) := by
  rw [blankRowAt, rowAt, blankCellsAt_eq, ← blankRow_eq, blankRow_length]

theorem blankRowsAt_eq (p columns n : Nat) :
    blankRowsAt p columns n = rowsAt p (blankRows n columns) := by
  induction n generalizing p with
  | zero => rfl
  | succ n ih =>
    rw [blankRowsAt, blankRows, List.replicate_succ, rowsAt, blankRowAt_eq, ih, ← blankRow_eq,
      blankRow_length]
    rfl

theorem blankTableAt_eq (p rows columns : Nat) :
    blankTableAt p rows columns = tableAt p (blankRows rows columns) := by
  rw [blankTableAt, tableAt, blankRowsAt_eq]

theorem shape_blankTableAt (p columns : Nat) {rows : Nat} (h : 1 ≤ rows) :
    (blankTableAt p rows columns).shape = (rows, columns) := by
  rw [blankTableAt_eq, shape_tableAt, blankRows, List.length_replicate, List.map_replicate,
    List.length_replicate, List.foldl_max, List.max?_replicate_of_pos h, Option.getD_some,
    Nat.zero_max]

/-- A line feed ends the element before it, so nothing behind it is read with it. -/
theorem readAlone_lineFeed : ReadAlone [.char '\n'] := by
  intro p rest hrest
  change (read (p + 1) rest).step p (.char '\n') = _
  change (read (p + 1) rest).elements = [] at hrest
  simp only [Reading.step, if_true, Reading.add, hrest]
  rfl

theorem read_blankTable (p rows columns : Nat) (gs : List Glyph) :
    read p (blankTable rows columns ++ gs) =
      (read (p + (blankTable rows columns).length) gs).add
        (.mk p (p + (blankTable rows columns).length) none
          (some (blankTableAt p rows columns))) := by
  have halone : ∀ cells ∈ blankRows rows columns, ∀ cell ∈ cells, ReadAlone cell := by
    intro cells hcells cell hcell
    rw [List.eq_of_mem_replicate hcells] at hcell
    rw [List.eq_of_mem_replicate hcell]
    exact readAlone_lineFeed
  rw [blankTable_eq, blankTableAt_eq]
  exact read_tableGlyphs halone p gs

theorem tables_blankTable (p rows columns : Nat) (gs : List Glyph) :
    (read p (blankTable rows columns ++ gs)).tables =
      blankTableAt p rows columns ::
        (read (p + (blankTable rows columns).length) gs).tables := by
  rw [read_blankTable]
  rfl

end Folio.Remote
