import Folio.Proofs.Remote.Reading
import Folio.Table.Marker
import Folio.Table.Population
/-!
The table phases look at a snapshot only through its outline: whether the text of a paragraph comes
in one run or in many makes no difference to the markers found, the tables counted and the cells
written.
-/
set_option autoImplicit false

namespace Folio

open Edit

namespace Snapshot

@[simp] theorem Element.outline_table (e : Element) :
    e.outline.table = e.table.map Table.outline := by
  obtain ⟨start, stop, paragraph, table⟩ := e
  cases table <;> rfl

@[simp] theorem Element.outline_text (e : Element) : e.outline.text = e.text := by
  obtain ⟨start, stop, paragraph, table⟩ := e
  cases paragraph with
  | none => simp [Element.outline, Element.text, Element.paragraph]
  | some runs => simp [Element.outline, Element.text, Element.paragraph, String.join]

mutual

theorem Element.markers_outline (key : List Char) (depth : Nat) :
    (e : Element) → e.outline.markers key depth = e.markers key depth
  | .mk start stop paragraph none => by
    have htext := Element.outline_text (.mk start stop paragraph none)
    simp only [Element.outline] at htext ⊢
    simp only [Element.markers, htext]
  | .mk start stop paragraph (some t) => by
    have htext := Element.outline_text (.mk start stop paragraph none)
    have htable := t.markers_outline key depth
    simp only [Element.outline] at htext ⊢
    simp only [Element.markers, htext, htable]

theorem Table.markers_outline (key : List Char) (depth : Nat) :
    (t : Table) → t.outline.markers key depth = t.markers key depth
  | .mk _ _ tableRows => rowsMarkers_outline key depth tableRows

theorem Row.markers_outline (key : List Char) (depth : Nat) :
    (r : Row) → r.outline.markers key depth = r.markers key depth
  | .mk _ _ cells => cellsMarkers_outline key depth cells

theorem Cell.markers_outline (key : List Char) (depth : Nat) :
    (c : Cell) → c.outline.markers key depth = c.markers key depth
  | .mk _ _ content => elementsMarkers_outline key (depth + 1) content

theorem elementsMarkers_outline (key : List Char) (depth : Nat) :
    (es : List Element) →
      elementsMarkers key depth (elementsOutline es) = elementsMarkers key depth es
  | [] => rfl
  | e :: es => by
    simp only [elementsOutline, elementsMarkers, e.markers_outline key depth,
      elementsMarkers_outline key depth es]

theorem rowsMarkers_outline (key : List Char) (depth : Nat) :
    (rs : List Row) → rowsMarkers key depth (rowsOutline rs) = rowsMarkers key depth rs
  | [] => rfl
  | r :: rs => by
    simp only [rowsOutline, rowsMarkers, r.markers_outline key depth,
      rowsMarkers_outline key depth rs]

theorem cellsMarkers_outline (key : List Char) (depth : Nat) :
    (cs : List Cell) → cellsMarkers key depth (cellsOutline cs) = cellsMarkers key depth cs
  | [] => rfl
  | c :: cs => by
    simp only [cellsOutline, cellsMarkers, c.markers_outline key depth,
      cellsMarkers_outline key depth cs]

end

theorem Element.markers_eq_nil_of_isBreak (key : List Char) (depth : Nat) {e : Element}
    (h : e.isBreak) : e.markers key depth = [] := by
  obtain ⟨start, stop, paragraph, table⟩ := e
  cases paragraph <;> cases table <;> simp_all [Element.isBreak, Element.paragraph, Element.table]
  rfl

theorem elementsMarkers_filter (key : List Char) (depth : Nat) (es : List Element) :
    elementsMarkers key depth (es.filter (!·.isBreak)) = elementsMarkers key depth es := by
  induction es with
  | nil => rfl
  | cons e es ih =>
    cases h : e.isBreak with
    | false => simp [h, elementsMarkers, ih]
    | true => simp [h, elementsMarkers, ih, Element.markers_eq_nil_of_isBreak key depth h]

theorem markers_eq_outline (s : Snapshot) (fingerprint : String) :
    s.markers fingerprint = elementsMarkers fingerprint.toList 0 s.outline := by
  rw [Snapshot.outline, elementsMarkers_outline, elementsMarkers_filter]
  rfl

theorem filterMap_table_outline (es : List Element) :
    (elementsOutline (es.filter (!·.isBreak))).filterMap (·.table) =
      (es.filterMap (·.table)).map Table.outline := by
  induction es with
  | nil => rfl
  | cons e es ih =>
    rw [elementsOutline_eq_map] at ih ⊢
    obtain ⟨start, stop, paragraph, table⟩ := e
    cases paragraph <;> cases table <;>
      simp_all [Element.isBreak, Element.paragraph, Element.table, Element.outline]

theorem tables_outline (s : Snapshot) :
    s.tables.map Table.outline = s.outline.filterMap (·.table) :=
  (filterMap_table_outline s.content).symm

theorem Cell.isBlank_outline (c : Cell) : c.outline.isBlank = c.isBlank := by
  obtain ⟨start, stop, content⟩ := c
  simp [Cell.outline, Cell.isBlank, Cell.content, elementsOutline_eq_map, Function.comp_def]

theorem Cell.contentStart_outline (c : Cell) : c.outline.contentStart = c.contentStart := by
  obtain ⟨start, stop, content⟩ := c
  cases content with
  | nil => rfl
  | cons e es =>
    obtain ⟨start, stop, paragraph, table⟩ := e
    rfl

theorem Row.cells_outline (r : Row) : r.outline.cells = r.cells.map Cell.outline := by
  obtain ⟨start, stop, cells⟩ := r
  exact cellsOutline_eq_map cells

theorem Table.tableRows_outline (t : Table) :
    t.outline.tableRows = t.tableRows.map Row.outline := by
  obtain ⟨rows, columns, tableRows⟩ := t
  exact rowsOutline_eq_map tableRows

theorem Table.shape_outline (t : Table) : t.outline.shape = t.shape := by
  simp [Table.shape, Table.tableRows_outline, Row.cells_outline, Function.comp_def]

end Snapshot

open Snapshot

theorem cellPopulation_outline (plan : TablePlan) (row column : Nat) (c : Cell) :
    cellPopulation plan row column c.outline = cellPopulation plan row column c := by
  simp only [cellPopulation, c.isBlank_outline, c.contentStart_outline]

theorem rowPopulation_outline (plan : TablePlan) (row : Nat) (r : Row) :
    rowPopulation plan row r.outline = rowPopulation plan row r := by
  simp only [rowPopulation, r.cells_outline, List.zipIdx_map, ← List.map_reverse, List.flatMap_map]
  simp only [Prod.map, cellPopulation_outline, id]

theorem tablePopulation_outline (plan : TablePlan) (t : Table) :
    tablePopulation plan t.outline = tablePopulation plan t := by
  simp only [tablePopulation, t.tableRows_outline, List.zipIdx_map, ← List.map_reverse,
    List.flatMap_map]
  simp only [Prod.map, rowPopulation_outline, id]

end Folio
