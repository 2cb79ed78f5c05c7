import Folio.Proofs.Remote.Grid
/-!
Documents in which each table is closed. Such a document can be read part by part: a table is read
where it stands, whatever is behind it (`read_table`), and the content of a cell whatever is around
it (`Closed.read_append`). The content of a cell starts behind the mark of the cell, and whether it
is blank is told by its positions one by one.
-/
set_option autoImplicit false

namespace Folio.Remote

open Edit
open Snapshot (Cell Row Table)

/-- Text, pictures and tables; the cells of a table hold the same again. -/
inductive Closed : List Glyph → Prop where
  | nil : Closed []
  | plain {g : Glyph} {gs : List Glyph} (hg : g.isPlain) (h : Closed gs) : Closed (g :: gs)
  | table {rows : List (List (List Glyph))} {gs : List Glyph}
      (hrows : ∀ cells ∈ rows, ∀ cell ∈ cells, Closed cell) (h : Closed gs) :
      Closed (tableGlyphs rows ++ gs)

theorem Closed.append_plain {as gs : List Glyph} (has : ∀ g ∈ as, g.isPlain) (h : Closed gs) :
    Closed (as ++ gs) := by
  induction as with
  | nil => exact h
  | cons a as ih =>
    rw [List.forall_mem_cons] at has
    exact .plain has.1 (ih has.2)

def putGlyph (p : Nat) (g : Glyph) (es : List Snapshot.Element) : List Snapshot.Element :=
  match g with
  | .char c => if c = '\n' then .line p (p + 1) "\n" :: es else join p (String.singleton c) es
  | _ => join p "" es

theorem step_plain {g : Glyph} (hg : g.isPlain) (p : Nat) (r : Reading) :
    r.step p g = { r with elements := putGlyph p g r.elements } := by
  cases g with
  | char c =>
    rw [Reading.step, putGlyph]
    split <;> rfl
  | trail | image uri size => rfl
  | tableStart | rowStart | cellStart | tableStop => cases hg

theorem Closed.read_append {gs : List Glyph} (h : Closed gs) : ReadAlone gs := by
  induction h with
  | nil =>
    intro p rest hrest
    change read p rest = { read p rest with elements := [] }
    change (read p rest).elements = [] at hrest
    rw [← hrest]
  | @plain g gs hg h ih =>
    intro p rest hrest
    have hlen : p + (g :: gs).length = p + 1 + gs.length := by
      rw [List.length_cons]
      omega
    rw [hlen] at hrest ⊢
    rw [List.cons_append, read, ih (p + 1) rest hrest, step_plain hg, read, step_plain hg]
  | @table rows gs hrows h ihrows ih =>
    intro p rest hrest
    rw [List.length_append, ← Nat.add_assoc] at hrest ⊢
    rw [List.append_assoc, read_tableGlyphs ihrows, read_tableGlyphs ihrows, ih _ rest hrest]
    rfl

section

variable {rows : List (List (List Glyph))} {gs : List Glyph}

theorem read_table (h : ∀ cells ∈ rows, ∀ cell ∈ cells, Closed cell) (p : Nat) (gs : List Glyph) :
    read p (tableGlyphs rows ++ gs) =
      (read (p + (tableGlyphs rows).length) gs).add (tableElement p rows) :=
  read_tableGlyphs (fun cells hcells cell hcell => (h cells hcells cell hcell).read_append) p gs

theorem tables_plain_cons {g : Glyph} (hg : g.isPlain) (p : Nat) (gs : List Glyph) :
    (read p (g :: gs)).tables = (read (p + 1) gs).tables :=
  tables_plain (List.forall_mem_singleton.2 hg) p gs

theorem tables_table (h : ∀ cells ∈ rows, ∀ cell ∈ cells, Closed cell) (p : Nat)
    (gs : List Glyph) :
    (read p (tableGlyphs rows ++ gs)).tables =
      tableAt p rows :: (read (p + (tableGlyphs rows).length) gs).tables := by
  rw [read_table h]
  rfl

def Glyph.isBlank : Glyph → Bool
  | .char c => c == '\n'
  | .trail | .image .. => true
  | _ => false

theorem start_putGlyph (p : Nat) (g : Glyph) (es : List Snapshot.Element) :
    (putGlyph p g es).head?.map (·.start) = some p := by
  have hjoin : ∀ text, (join p text es).head?.map (·.start) = some p := by
    intro text
    unfold join
    split
    · rfl
    · split <;> rfl
  unfold putGlyph
  split
  · split
    · rfl
    · exact hjoin _
  · exact hjoin ""

theorem Closed.start_elements (h : Closed gs) (p : Nat) :
    ∀ e ∈ (read p gs).elements.head?, e.start = p := by
  cases h with
  | nil =>
    intro e he
    cases he
  | @plain g gs hg h =>
    intro e he
    have hstart := start_putGlyph p g (read (p + 1) gs).elements
    rw [read, step_plain hg] at he
    rw [Option.mem_def.1 he] at hstart
    exact Option.some.inj hstart
  | @table rows gs hrows h =>
    intro e he
    rw [read_table hrows] at he
    cases he
    rfl

def isBlankElement (e : Snapshot.Element) : Bool :=
  e.table.isNone && e.text.toList.all (· == '\n')

theorem isBlankElement_line (p stop : Nat) (text : String) :
    isBlankElement (.line p stop text) = text.toList.all (· == '\n') := by
  simp [isBlankElement, Snapshot.Element.line, Snapshot.Element.table, Snapshot.Element.text,
    Snapshot.Element.paragraph, String.join]

theorem isBlank_join (p : Nat) (text : String) (es : List Snapshot.Element) :
    (join p text es).all isBlankElement =
      (text.toList.all (· == '\n') && es.all isBlankElement) := by
  cases es with
  | nil => simp [join, isBlankElement_line]
  | cons e es =>
    rw [join]
    split
    · simp only [List.all_cons, isBlankElement, Snapshot.Element.table, Snapshot.Element.text,
        Snapshot.Element.paragraph]
      simp [String.join, Bool.and_assoc, Bool.and_left_comm]
    · rw [List.all_cons, isBlankElement_line]

theorem isBlank_putGlyph {g : Glyph} (hg : g.isPlain) (p : Nat) (es : List Snapshot.Element) :
    (putGlyph p g es).all isBlankElement = (g.isBlank && es.all isBlankElement) := by
  cases g with
  | char c =>
    rw [putGlyph]
    split
    · rename_i hc
      rw [hc, List.all_cons, isBlankElement_line]
      rfl
    · rw [isBlank_join, String.toList_singleton, List.all_cons, List.all_nil, Bool.and_true]
      rfl
  | trail | image uri size => exact isBlank_join p "" es
  | tableStart | rowStart | cellStart | tableStop => cases hg

theorem Closed.isBlank_elements (h : Closed gs) (p : Nat) :
    (read p gs).elements.all isBlankElement = gs.all Glyph.isBlank := by
  induction h generalizing p with
  | nil => rfl
  | @plain g gs hg h ih => rw [read, step_plain hg, List.all_cons, isBlank_putGlyph hg, ih]
  | @table rows gs hrows h _ ih =>
    rw [read_table hrows]
    rfl

theorem Closed.contentStart_cellAt (h : Closed gs) (p : Nat) :
    (cellAt p gs).contentStart = p + 1 := by
  have hstart := h.start_elements (p + 1)
  rw [cellAt, Cell.contentStart, Cell.content]
  cases hes : (read (p + 1) gs).elements with
  | nil => rfl
  | cons e es =>
    rw [hes] at hstart
    exact hstart e rfl

theorem Closed.isBlank_cellAt (h : Closed gs) (p : Nat) :
    (cellAt p gs).isBlank = gs.all Glyph.isBlank :=
  h.isBlank_elements (p + 1)

end

end Folio.Remote
