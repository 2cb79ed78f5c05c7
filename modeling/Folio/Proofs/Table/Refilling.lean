import Folio.Proofs.Draft.Diagrams
import Folio.Proofs.Remote.Closed
import Folio.Proofs.Table.Found
import Folio.Proofs.Table.Populating
/-!
Filling the tables of a document a second time. Once the batch for a snapshot has been carried out,
any snapshot of the new document gives the same pairs of plans and tables, and a batch without
requests (`populationRequests_again`): a cell that got any text is blank no more, unless the text is
nothing but line feeds, and one that got none has none to get.
-/
set_option autoImplicit false

namespace Folio

open Edit Remote
open Snapshot (Cell Row Table)

structure Inlet where
  contentStart : Nat
  isBlank : Bool
  deriving Repr, DecidableEq

def Snapshot.Cell.inlet (c : Cell) : Inlet := ⟨c.contentStart, c.isBlank⟩

def Snapshot.Table.inlets (t : Table) : List (List Inlet) :=
  t.tableRows.map (·.cells.map Cell.inlet)

theorem Snapshot.Table.inlets_outline (t : Table) : t.outline.inlets = t.inlets := by
  simp only [inlets, t.tableRows_outline, List.map_map, Function.comp_def, Row.cells_outline,
    Cell.inlet, Cell.contentStart_outline, Cell.isBlank_outline]
  rfl

def inletRequests (plan : TablePlan) (row column : Nat) (inlet : Inlet) : List Request :=
  match plan.cell? row column with
  | none => []
  | some content => if inlet.isBlank then content.cellRequests inlet.contentStart else []

section

variable {plan : TablePlan} {plans : List TablePlan} {t t' : Table}

theorem tablePopulation_eq_inlets (plan : TablePlan) (t : Table) :
    tablePopulation plan t = t.inlets.zipIdx.reverse.flatMap fun (inlets, row) =>
      inlets.zipIdx.reverse.flatMap fun (inlet, column) => inletRequests plan row column inlet := by
  simp only [tablePopulation, rowPopulation, Table.inlets, List.zipIdx_map, ← List.map_reverse,
    List.flatMap_map, Prod.map]
  rfl

theorem tablePopulation_congr (h : t.inlets = t'.inlets) :
    tablePopulation plan t = tablePopulation plan t' := by
  rw [tablePopulation_eq_inlets, tablePopulation_eq_inlets, h]

theorem checkShape_congr (h : t.inlets = t'.inlets) : checkShape plan t = checkShape plan t' := by
  have hshape : ∀ t : Table,
      t.shape = (t.inlets.length, (t.inlets.map List.length).foldl max 0) := by
    intro t
    simp [Table.shape, Table.inlets, Function.comp_def]
  simp only [checkShape, hshape, h]

theorem matchPlans_cons_none {ordinal : Nat} {checked : List (Nat × Table)}
    (hfind : plans.find? (·.ordinal == ordinal) = none) :
    matchPlans plans ((ordinal, t) :: checked) = matchPlans plans checked := by
  rw [matchPlans, hfind]

theorem matchPlans_cons_some {ordinal : Nat} {checked : List (Nat × Table)}
    {rest : List (TablePlan × Table)} (hfind : plans.find? (·.ordinal == ordinal) = some plan)
    (hcheck : checkShape plan t = .ok ()) (hrest : matchPlans plans checked = .ok rest) :
    matchPlans plans ((ordinal, t) :: checked) = .ok ((plan, t) :: rest) := by
  simp only [matchPlans, hfind, hcheck, hrest]
  rfl

theorem populationRequests_cons (plan : TablePlan) (t : Table) (pairs : List (TablePlan × Table)) :
    populationRequests ((plan, t) :: pairs) =
      populationRequests pairs ++ tablePopulation plan t := by
  simp [populationRequests]

end

section

variable {plans : List TablePlan} {placed : List Nat} {pairs : List (TablePlan × Table)}
  {ts ts' : List Table}

theorem matchPlans_inlets (h : ts.map Table.inlets = ts'.map Table.inlets)
    (hpairs : matchPlans plans (placed.zip ts) = .ok pairs) :
    ∃ pairs', matchPlans plans (placed.zip ts') = .ok pairs' ∧
      pairs'.map (·.1) = pairs.map (·.1) ∧
      populationRequests pairs' = populationRequests pairs := by
  induction placed generalizing ts ts' pairs with
  | nil =>
    cases hpairs
    exact ⟨[], rfl, rfl, rfl⟩
  | cons ordinal placed ih =>
    cases ts with
    | nil =>
      cases hpairs
      rw [List.map_eq_nil_iff.1 h.symm]
      exact ⟨[], rfl, rfl, rfl⟩
    | cons t ts =>
      obtain ⟨t', ts', rfl, ht, hts⟩ := List.map_eq_cons_iff.1 h.symm
      rw [List.zip_cons_cons] at hpairs ⊢
      rcases matchPlans_cons hpairs with ⟨hfind, hrest⟩ | ⟨plan, rest, hfind, hcheck, hrest, rfl⟩
      · rw [matchPlans_cons_none hfind]
        exact ih hts.symm hrest
      · obtain ⟨rest', hrest', hplans, hrequests⟩ := ih hts.symm hrest
        rw [← checkShape_congr ht] at hcheck
        refine ⟨_, matchPlans_cons_some hfind hcheck hrest', by simp [hplans], ?_⟩
        rw [populationRequests_cons, populationRequests_cons, hrequests, tablePopulation_congr ht]

def placesOf (plans : List TablePlan) (placed : List Nat) (first : Nat) : List (TablePlan × Nat) :=
  (placed.zipIdx first).filterMap fun (ordinal, k) =>
    (plans.find? (·.ordinal == ordinal)).map (·, k)

def PairedAt (ts : List Table) (places : List (TablePlan × Nat))
    (pairs : List (TablePlan × Table)) : Prop :=
  List.Forall₂ (fun place pair => pair.1 = place.1 ∧ ts[place.2]? = some pair.2) places pairs

theorem matchPlans_places (front : List Table) (hlen : ts.length = placed.length)
    (hpairs : matchPlans plans (placed.zip ts) = .ok pairs) :
    PairedAt (front ++ ts) (placesOf plans placed front.length) pairs := by
  induction placed generalizing ts front pairs with
  | nil =>
    cases hpairs
    exact .nil
  | cons ordinal placed ih =>
    cases ts with
    | nil => cases hlen
    | cons t ts =>
      have hrest : ∀ rest, matchPlans plans (placed.zip ts) = .ok rest →
          PairedAt (front ++ t :: ts) (placesOf plans placed (front.length + 1)) rest := by
        intro rest h
        have hplaces := ih (front ++ [t]) (Nat.succ.inj hlen) h
        rwa [List.length_append, List.append_assoc] at hplaces
      rw [List.zip_cons_cons] at hpairs
      rw [placesOf, List.zipIdx_cons]
      rcases matchPlans_cons hpairs with ⟨hfind, h⟩ | ⟨plan, rest, hfind, -, h, rfl⟩
      · rw [List.filterMap_cons_none (by simp [hfind])]
        exact hrest pairs h
      · rw [List.filterMap_cons_some (b := (plan, front.length)) (by simp [hfind])]
        exact .cons ⟨rfl, by simp⟩ (hrest rest h)

theorem pairTables_iff {s : Snapshot} : pairTables s plans placed = .ok pairs ↔
    s.tables.length = placed.length ∧ matchPlans plans (placed.zip s.tables) = .ok pairs := by
  rw [pairTables]
  split
  · rename_i hlen
    exact ⟨fun h => ⟨hlen, h⟩, And.right⟩
  · rename_i hlen
    exact ⟨fun h => (by cases h), fun h => absurd h.1 hlen⟩

theorem pairTables_places {s : Snapshot} (hpairs : pairTables s plans placed = .ok pairs) :
    PairedAt s.tables (placesOf plans placed 0) pairs := by
  obtain ⟨hlen, hpairs⟩ := pairTables_iff.1 hpairs
  exact matchPlans_places [] hlen hpairs

end

def requestChars (rs : List Request) : List Char :=
  (rs.filterMap Request.text?).flatMap String.toList

def Node.cellText (n : Node) : List Char := requestChars (n.cellRequests 1)

/-- What is planned for a cell is nothing, or something that can be seen. -/
def TablePlan.Settled (plan : TablePlan) : Prop :=
  ∀ row column content, plan.cell? row column = some content →
    content.cellText = [] ∨ ∃ c ∈ content.cellText, c ≠ '\n'

def TablePlan.isSettled (plan : TablePlan) : Bool :=
  plan.node.children.all fun row => row.children.all fun content =>
    content.cellText.isEmpty || content.cellText.any (· != '\n')

theorem TablePlan.settled_of_isSettled {plan : TablePlan} (h : plan.isSettled) :
    plan.Settled := by
  intro row column content hcell
  obtain ⟨r, hr, hcontent⟩ := Option.bind_eq_some_iff.1 hcell
  have hrow := List.all_eq_true.1 h r (List.mem_of_getElem? hr)
  have htext := List.all_eq_true.1 hrow content (List.mem_of_getElem? hcontent)
  rw [Bool.or_eq_true, List.isEmpty_iff, List.any_eq_true] at htext
  exact htext.imp_right fun ⟨c, hc, hline⟩ => ⟨c, hc, bne_iff_ne.1 hline⟩

theorem requestChars_insert (d : Draft) (text : String) :
    requestChars (d.insert text).requests = requestChars d.requests ++ text.toList := by
  unfold Draft.insert
  split
  · rename_i h
    rw [String.isEmpty_iff] at h
    simp [h]
  · simp [Draft.requests, Draft.push, requestChars, Request.text?]

theorem requestChars_styleSince (d : Draft) (start : Nat) (style : TextStyle) :
    requestChars (d.styleSince start style).requests = requestChars d.requests := by
  unfold Draft.styleSince
  split
  · rfl
  · simp [Draft.requests, Draft.push, requestChars, Request.text?, Request.text]

mutual

theorem emitCell_chars (look : Look) : (n : Node) → (d : Draft) →
    requestChars (n.emitCell d).requests =
      requestChars d.requests ++ chars (glyphs (n.cellSpots look))
  | .mk id kind children, d => by
    have hall := emitCells_chars (kind.cellLook look) children d
    cases kind with
    | text value | inlineCode value =>
      simp only [Node.emitCell, Node.cellSpots, glyphs_inLook, glyphsOf, chars_glyphsOfChars]
      exact requestChars_insert d value
    | strong | emphasis => exact (requestChars_styleSince _ _ _).trans hall
    | _ => exact hall

theorem emitCells_chars (look : Look) : (ns : List Node) → (d : Draft) →
    requestChars (emitCells ns d).requests =
      requestChars d.requests ++ chars (glyphs (cellSpotsAll look ns))
  | [], d => (List.append_nil _).symm
  | n :: ns, d => by
    rw [emitCells, emitCells_chars look ns, emitCell_chars look n, cellSpotsAll, glyphs_append,
      chars_append, List.append_assoc]

end

mutual

/-- Without text a cell asks for nothing: there is nothing to style. -/
theorem emitCell_of_chars_eq_nil (look : Look) : (n : Node) → (d : Draft) →
    chars (glyphs (n.cellSpots look)) = [] → n.emitCell d = d
  | .mk id kind children, d, h => by
    have hall := emitCells_of_chars_eq_nil (kind.cellLook look) children d
    have hstyle : ∀ style, d.styleSince d.index style = d := fun style =>
      if_pos (by simp [Range.isEmpty])
    cases kind with
    | text value | inlineCode value =>
      simp only [Node.cellSpots, glyphs_inLook, glyphsOf, chars_glyphsOfChars] at h
      exact if_pos (by rw [String.isEmpty_iff, String.toList_eq_nil_iff.1 h])
    | strong | emphasis =>
      rw [Node.emitCell, hall h]
      exact hstyle _
    | _ => exact hall h

theorem emitCells_of_chars_eq_nil (look : Look) : (ns : List Node) → (d : Draft) →
    chars (glyphs (cellSpotsAll look ns)) = [] → emitCells ns d = d
  | [], _, _ => rfl
  | n :: ns, d, h => by
    rw [cellSpotsAll, glyphs_append, chars_append, List.append_eq_nil_iff] at h
    rw [emitCells, emitCell_of_chars_eq_nil look n d h.1, emitCells_of_chars_eq_nil look ns d h.2]

end

theorem Node.cellText_eq (n : Node) : n.cellText = chars (glyphs n.cellContent) := by
  have hchars := emitCell_chars (cellLook []) n (.startingAt ⟨1⟩)
  rw [cellSpots_eq] at hchars
  exact hchars

theorem Node.cellRequests_of_cellText_eq_nil {n : Node} (h : n.cellText = []) (p : Nat) :
    n.cellRequests p = [] := by
  rw [n.cellText_eq, Node.cellContent, ← cellSpots_eq] at h
  rw [Node.cellRequests, emitCell_of_chars_eq_nil _ n _ h]
  rfl

theorem mem_chars_iff {gs : List Glyph} {c : Char} : c ∈ chars gs ↔ .char c ∈ gs := by
  rw [chars, List.mem_filterMap]
  constructor
  · rintro ⟨g, hg, hc⟩
    cases g with
    | char c' => exact Option.some.inj hc ▸ hg
    | _ => cases hc
  · exact fun h => ⟨.char c, h, rfl⟩

theorem isPlain_cellContent (n : Node) : ∀ g ∈ glyphs n.cellContent, g.isPlain := by
  intro g hg
  simp only [Node.cellContent, glyphs, List.map_flatMap, List.mem_flatMap] at hg
  obtain ⟨⟨above, value⟩, -, hg⟩ := hg
  have hglyphs := glyphs_inLook (cellLook above) (glyphsOf value)
  exact isPlain_glyphsOf value g (hglyphs ▸ hg)

/-! What a batch does to the glyphs of a part of the document. -/

/-- A batch turns content of these glyphs, standing at `p`, into content of those. -/
def Turns (p : Nat) (rs : List Request) (gs gs' : List Glyph) : Prop :=
  ∀ x : Content, glyphs x = gs → ∃ y, Rewrites p rs x y ∧ glyphs y = gs'

namespace Turns

variable {p q : Nat} {rs rs' : List Request} {gs gs' as as' bs bs' : List Glyph}

theorem keep (p : Nat) (gs : List Glyph) : Turns p [] gs gs := fun x hx => ⟨x, .nil p x, hx⟩

theorem backward (h : Turns p rs as as') (h' : Turns q rs' bs bs') (hq : q = p + as.length) :
    Turns p (rs' ++ rs) (as ++ bs) (as' ++ bs') := by
  intro x hx
  obtain ⟨a, b, rfl, rfl, rfl⟩ := List.map_eq_append_iff.1 hx
  obtain ⟨y, hy, hya⟩ := h a rfl
  obtain ⟨z, hz, hzb⟩ := h' b rfl
  rw [List.length_map] at hq
  exact ⟨y ++ z, hy.backward hz hq, by rw [glyphs_append, hya, hzb]⟩

theorem behind (front : List Glyph) (h : Turns q rs gs gs') (hq : q = p + front.length) :
    Turns p rs (front ++ gs) (front ++ gs') := by
  have hboth := (keep p front).backward h hq
  rwa [List.append_nil] at hboth

theorem before (h : Turns p rs gs gs') (back : List Glyph) :
    Turns p rs (gs ++ back) (gs' ++ back) :=
  h.backward (keep (p + gs.length) back) rfl

end Turns

def filledGlyphs (plan : TablePlan) (row column : Nat) (gs : List Glyph) : List Glyph :=
  match plan.cell? row column with
  | none => gs
  | some content => if gs.all Glyph.isBlank then glyphs content.cellContent ++ gs else gs

def filledCells (plan : TablePlan) (row column : Nat) (cells : List (List Glyph)) :
    List (List Glyph) :=
  (cells.zipIdx column).map fun (gs, column) => filledGlyphs plan row column gs

def filledRows (plan : TablePlan) (row : Nat) (rows : List (List (List Glyph))) :
    List (List (List Glyph)) :=
  (rows.zipIdx row).map fun (cells, row) => filledCells plan row 0 cells

section

variable {plan : TablePlan} {row column p : Nat} {gs : List Glyph} {cells : List (List Glyph)}
  {rows : List (List (List Glyph))}

theorem closed_filled (h : Closed gs) (plan : TablePlan) (row column : Nat) :
    Closed (filledGlyphs plan row column gs) := by
  unfold filledGlyphs
  split
  · exact h
  · split
    · exact .append_plain (isPlain_cellContent _) h
    · exact h

theorem turns_cellPopulation (h : Closed gs) :
    Turns p (cellPopulation plan row column (cellAt p gs)) (cellGlyphs gs)
      (cellGlyphs (filledGlyphs plan row column gs)) := by
  unfold cellPopulation filledGlyphs
  rw [h.isBlank_cellAt, h.contentStart_cellAt]
  cases plan.cell? row column with
  | none => exact .keep p _
  | some content =>
    dsimp only
    split
    · have hcontent : Turns (p + 1) (content.cellRequests (p + 1)) gs
          (glyphs content.cellContent ++ gs) := fun x hx =>
        ⟨content.cellContent ++ x, (rewrites_cellContent content (p + 1)).appendRight x, by
          rw [glyphs_append, hx]⟩
      exact hcontent.behind [.cellStart] rfl
    · exact .keep p _

theorem cellPopulation_filled (h : Closed gs) (hplan : plan.Settled) (p : Nat) :
    cellPopulation plan row column (cellAt p (filledGlyphs plan row column gs)) = [] := by
  have hclosed := closed_filled h plan row column
  unfold cellPopulation
  rw [hclosed.isBlank_cellAt]
  cases hcontent : plan.cell? row column with
  | none => rfl
  | some content =>
    simp only [filledGlyphs, hcontent]
    cases hblank : gs.all Glyph.isBlank with
    | false => simp [hblank]
    | true =>
      rcases hplan row column content hcontent with hnil | ⟨c, hc, hline⟩
      · rw [Node.cellRequests_of_cellText_eq_nil hnil]
        exact ite_self _
      · rw [content.cellText_eq] at hc
        have hseen : ((glyphs content.cellContent ++ gs).all Glyph.isBlank) = false :=
          List.all_eq_false.2 ⟨.char c, List.mem_append_left _ (mem_chars_iff.1 hc),
            fun h => hline (beq_iff_eq.1 h)⟩
        simp [hseen]

theorem turns_cells (h : ∀ cell ∈ cells, Closed cell) :
    Turns p
      (((cellsAt p cells).zipIdx column).reverse.flatMap fun (cell, column) =>
        cellPopulation plan row column cell)
      (cells.flatMap cellGlyphs) ((filledCells plan row column cells).flatMap cellGlyphs) := by
  induction cells generalizing p column with
  | nil => exact .keep p []
  | cons gs cells ih =>
    rw [List.forall_mem_cons] at h
    have hboth := (@turns_cellPopulation plan row column p gs h.1).backward
      (@ih (column + 1) (p + (cellGlyphs gs).length) h.2) rfl
    rw [cellsAt, filledCells, List.zipIdx_cons, List.zipIdx_cons, List.reverse_cons,
      List.flatMap_append, List.flatMap_singleton, List.flatMap_cons, List.map_cons,
      List.flatMap_cons]
    exact hboth

theorem cells_filled (h : ∀ cell ∈ cells, Closed cell) (hplan : plan.Settled) (p : Nat) :
    (((cellsAt p (filledCells plan row column cells)).zipIdx column).reverse.flatMap
      fun (cell, column) => cellPopulation plan row column cell) = [] := by
  induction cells generalizing p column with
  | nil => rfl
  | cons gs cells ih =>
    rw [List.forall_mem_cons] at h
    have hrest := @ih (column + 1) h.2 (p + (cellGlyphs (filledGlyphs plan row column gs)).length)
    rw [filledCells, List.zipIdx_cons, List.map_cons, cellsAt, List.zipIdx_cons, List.reverse_cons,
      List.flatMap_append, List.flatMap_singleton]
    exact List.append_eq_nil_iff.2 ⟨hrest, cellPopulation_filled h.1 hplan p⟩

theorem turns_rowPopulation (h : ∀ cell ∈ cells, Closed cell) :
    Turns p (rowPopulation plan row (rowAt p cells)) (rowGlyphs cells)
      (rowGlyphs (filledCells plan row 0 cells)) :=
  (turns_cells h).behind [.rowStart] rfl

theorem turns_rows (h : ∀ cells ∈ rows, ∀ cell ∈ cells, Closed cell) :
    Turns p
      (((rowsAt p rows).zipIdx row).reverse.flatMap fun (r, row) => rowPopulation plan row r)
      (rows.flatMap rowGlyphs) ((filledRows plan row rows).flatMap rowGlyphs) := by
  induction rows generalizing p row with
  | nil => exact .keep p []
  | cons cells rows ih =>
    rw [List.forall_mem_cons] at h
    have hboth := (@turns_rowPopulation plan row p cells h.1).backward
      (@ih (row + 1) (p + (rowGlyphs cells).length) h.2) rfl
    rw [rowsAt, filledRows, List.zipIdx_cons, List.zipIdx_cons, List.reverse_cons,
      List.flatMap_append, List.flatMap_singleton, List.flatMap_cons, List.map_cons,
      List.flatMap_cons]
    exact hboth

theorem rows_filled (h : ∀ cells ∈ rows, ∀ cell ∈ cells, Closed cell) (hplan : plan.Settled)
    (p : Nat) :
    (((rowsAt p (filledRows plan row rows)).zipIdx row).reverse.flatMap fun (r, row) =>
      rowPopulation plan row r) = [] := by
  induction rows generalizing p row with
  | nil => rfl
  | cons cells rows ih =>
    rw [List.forall_mem_cons] at h
    have hrest := @ih (row + 1) h.2 (p + (rowGlyphs (filledCells plan row 0 cells)).length)
    rw [filledRows, List.zipIdx_cons, List.map_cons, rowsAt, List.zipIdx_cons, List.reverse_cons,
      List.flatMap_append, List.flatMap_singleton]
    exact List.append_eq_nil_iff.2 ⟨hrest, cells_filled h.1 hplan (p + 1)⟩

theorem turns_tablePopulation (h : ∀ cells ∈ rows, ∀ cell ∈ cells, Closed cell) :
    Turns p (tablePopulation plan (tableAt p rows)) (tableGlyphs rows)
      (tableGlyphs (filledRows plan 0 rows)) :=
  ((turns_rows h).before [.tableStop]).behind [.tableStart] rfl

theorem closed_filledRows (h : ∀ cells ∈ rows, ∀ cell ∈ cells, Closed cell)
    (plan : TablePlan) (row : Nat) :
    ∀ cells ∈ filledRows plan row rows, ∀ cell ∈ cells, Closed cell := by
  intro cells hcells cell hcell
  obtain ⟨⟨old, row⟩, hold, rfl⟩ := List.mem_map.1 hcells
  obtain ⟨⟨gs, column⟩, hgs, rfl⟩ := List.mem_map.1 hcell
  exact closed_filled (h old (List.fst_mem_of_mem_zipIdx hold) gs
    (List.fst_mem_of_mem_zipIdx hgs)) plan row column

theorem checkShape_filled (plan : TablePlan) (p p' row : Nat) (rows : List (List (List Glyph))) :
    checkShape plan (tableAt p' (filledRows plan row rows)) = checkShape plan (tableAt p rows) := by
  have hwidths : (filledRows plan row rows).map List.length = rows.map List.length :=
    calc (filledRows plan row rows).map List.length
      _ = (rows.zipIdx row).map (·.1.length) := by
        simp [filledRows, filledCells, Function.comp_def]
      _ = ((rows.zipIdx row).map (·.1)).map List.length := by
        rw [List.map_map]
        rfl
      _ = rows.map List.length := by rw [List.zipIdx_map_fst]
  have hlength := congrArg List.length hwidths
  rw [List.length_map, List.length_map] at hlength
  simp only [checkShape, shape_tableAt, hwidths, hlength]

end

section

variable {plans : List TablePlan} {placed : List Nat} {pairs : List (TablePlan × Table)}
  {gs : List Glyph}

/-- Wherever these glyphs stand, they have so many tables, of which so many are paired, and no cell
of theirs is to be filled. -/
def Refilled (plans : List TablePlan) (placed : List Nat) (tables paired : Nat) (gs : List Glyph) :
    Prop :=
  ∀ p, (read p gs).tables.length = tables ∧
    ∃ pairs, matchPlans plans (placed.zip (read p gs).tables) = .ok pairs ∧
      pairs.length = paired ∧ populationRequests pairs = []

section

variable {tables paired ordinal : Nat} {plan : TablePlan} {rows : List (List (List Glyph))}

theorem Refilled.nil : Refilled plans placed 0 0 [] := by
  intro p
  have htables : (read p []).tables = [] := rfl
  rw [htables, List.zip_nil_right]
  exact ⟨rfl, [], rfl, rfl, rfl⟩

theorem Refilled.plain {g : Glyph} (hg : g.isPlain) (h : Refilled plans placed tables paired gs) :
    Refilled plans placed tables paired (g :: gs) := by
  intro p
  rw [tables_plain_cons hg]
  exact h (p + 1)

theorem Refilled.surplus (hrows : ∀ cells ∈ rows, ∀ cell ∈ cells, Closed cell)
    (h : Refilled plans [] tables paired gs) :
    Refilled plans [] (tables + 1) paired (tableGlyphs rows ++ gs) := by
  intro p
  obtain ⟨hlength, hpairs⟩ := h (p + (tableGlyphs rows).length)
  rw [tables_table hrows, List.length_cons, hlength]
  exact ⟨rfl, hpairs⟩

theorem Refilled.unplanned (hrows : ∀ cells ∈ rows, ∀ cell ∈ cells, Closed cell)
    (hfind : plans.find? (·.ordinal == ordinal) = none)
    (h : Refilled plans placed tables paired gs) :
    Refilled plans (ordinal :: placed) (tables + 1) paired (tableGlyphs rows ++ gs) := by
  intro p
  obtain ⟨hlength, hpairs⟩ := h (p + (tableGlyphs rows).length)
  rw [tables_table hrows, List.zip_cons_cons, matchPlans_cons_none hfind, List.length_cons, hlength]
  exact ⟨rfl, hpairs⟩

theorem Refilled.filled (hrows : ∀ cells ∈ rows, ∀ cell ∈ cells, Closed cell)
    (hfind : plans.find? (·.ordinal == ordinal) = some plan) {p : Nat}
    (hcheck : checkShape plan (tableAt p rows) = .ok ()) (hplan : plan.Settled)
    (h : Refilled plans placed tables paired gs) :
    Refilled plans (ordinal :: placed) (tables + 1) (paired + 1)
      (tableGlyphs (filledRows plan 0 rows) ++ gs) := by
  intro p'
  obtain ⟨hlength, pairs, hpairs, hpaired, hnone⟩ :=
    h (p' + (tableGlyphs (filledRows plan 0 rows)).length)
  rw [tables_table (closed_filledRows hrows plan 0), List.zip_cons_cons, List.length_cons, hlength]
  rw [← checkShape_filled plan p p' 0] at hcheck
  refine ⟨rfl, _, matchPlans_cons_some hfind hcheck hpairs, congrArg (· + 1) hpaired, ?_⟩
  rw [populationRequests_cons, hnone]
  exact rows_filled hrows hplan (p' + 1)

end

/-- The batch for the tables of a document, which goes through its parts from the last one back. In
what comes of it as many plans are paired, and no table is filled again. -/
theorem turns_populationRequests (h : Closed gs) (hsettled : ∀ pair ∈ pairs, pair.1.Settled)
    (p : Nat) (hpairs : matchPlans plans (placed.zip (read p gs).tables) = .ok pairs) :
    ∃ gs', Turns p (populationRequests pairs) gs gs' ∧
      Refilled plans placed (read p gs).tables.length pairs.length gs' := by
  induction h generalizing placed pairs p with
  | nil =>
    have htables : (read p []).tables = [] := rfl
    rw [htables, List.zip_nil_right] at hpairs
    cases hpairs
    exact ⟨[], .keep p [], .nil⟩
  | @plain g gs hg h ih =>
    rw [tables_plain_cons hg] at hpairs ⊢
    obtain ⟨gs', hturns, hagain⟩ := ih hsettled (p + 1) hpairs
    exact ⟨g :: gs', hturns.behind [g] rfl, hagain.plain hg⟩
  | @table rows gs hrows h _ ih =>
    rw [tables_table hrows] at hpairs ⊢
    cases placed with
    | nil =>
      cases hpairs
      obtain ⟨gs', hturns, hagain⟩ := @ih [] [] hsettled (p + (tableGlyphs rows).length) rfl
      exact ⟨tableGlyphs rows ++ gs', hturns.behind _ rfl, hagain.surplus hrows⟩
    | cons ordinal placed =>
      rw [List.zip_cons_cons] at hpairs
      rcases matchPlans_cons hpairs with ⟨hfind, hrest⟩ | ⟨plan, rest, hfind, hcheck, hrest, rfl⟩
      · obtain ⟨gs', hturns, hagain⟩ := ih hsettled _ hrest
        exact ⟨tableGlyphs rows ++ gs', hturns.behind _ rfl, hagain.unplanned hrows hfind⟩
      · obtain ⟨hplan, hsettled⟩ := List.forall_mem_cons.1 hsettled
        obtain ⟨gs', hturns, hagain⟩ := ih hsettled _ hrest
        rw [populationRequests_cons]
        exact ⟨tableGlyphs (filledRows plan 0 rows) ++ gs',
          (turns_tablePopulation hrows).backward hturns rfl,
          hagain.filled hrows hfind hcheck hplan⟩

/-- A snapshot says of the outermost tables of a document what there is to say: how many cells they
have in each row, where the content of the cells starts and which of them are blank. A snapshot with
all positions right does, however it is cut into runs (`Snapshot.shows_of_outline`). -/
def Snapshot.Shows (s : Snapshot) (c : Content) : Prop :=
  s.tables.map Table.inlets = (read 1 (glyphs c)).tables.map Table.inlets

theorem Snapshot.shows_of_outline {s : Snapshot} {c : Content} (h : s.outline = reading c) :
    s.Shows c := by
  have htables : s.tables.map Table.outline = (read 1 (glyphs c)).tables := by
    rw [s.tables_outline, h]
    rfl
  rw [Snapshot.Shows, ← htables, List.map_map]
  exact List.map_congr_left fun t _ => t.inlets_outline.symm

variable {s : Snapshot} {c c' : Content}

theorem populateTables_run_of_shows (service : Service) (document : String) (hs : s.Shows c)
    (hpairs : pairTables s plans placed = .ok pairs)
    (hcarry : carryOut (populationRequests pairs) c = some c') :
    service.run (populateTables document plans placed) c =
      (.ok ⟨pairs.length, (populationRequests pairs).length⟩, c') := by
  have hfetch : (service.fetch document c).Shows c :=
    Snapshot.shows_of_outline (service.exact document c)
  obtain ⟨hlen, hpairs⟩ := pairTables_iff.1 hpairs
  have hsame : s.tables.map Table.inlets = (service.fetch document c).tables.map Table.inlets :=
    hs.trans hfetch.symm
  obtain ⟨pairs', hpairs', hplans, hrequests⟩ := matchPlans_inlets hsame hpairs
  have hlen' := congrArg List.length hsame
  have hcount := congrArg List.length hplans
  rw [List.length_map, List.length_map] at hlen' hcount
  have hfetched := pairTables_iff.2 ⟨hlen' ▸ hlen, hpairs'⟩
  refine (service.run_fetch_bind document _ c).trans ?_
  simp only [hfetched, hrequests]
  rw [service.run_bind, service.run_commitBatch document hcarry]
  simp [hcount]

theorem carryOut_populationRequests_again (hc : Closed (glyphs c)) (hs : s.Shows c)
    (hpairs : pairTables s plans placed = .ok pairs)
    (hsettled : ∀ pair ∈ pairs, pair.1.Settled) :
    ∃ c', carryOut (populationRequests pairs) c = some c' ∧
      ∀ s' : Snapshot, s'.Shows c' → ∃ pairs', pairTables s' plans placed = .ok pairs' ∧
        pairs'.length = pairs.length ∧ populationRequests pairs' = [] := by
  obtain ⟨hlen, hmatch⟩ := pairTables_iff.1 hpairs
  -- The batch is the one for the document as it is read.
  obtain ⟨before, hbefore, hplans, hrequests⟩ := matchPlans_inlets hs hmatch
  have hsettled' : ∀ pair ∈ before, pair.1.Settled := by
    intro pair hpair
    have hplan : pair.1 ∈ pairs.map (·.1) := hplans ▸ List.mem_map_of_mem hpair
    obtain ⟨pair', hpair', hsame⟩ := List.mem_map.1 hplan
    exact hsame ▸ hsettled pair' hpair'
  obtain ⟨gs', hturns, hagain⟩ := turns_populationRequests hc hsettled' 1 hbefore
  obtain ⟨c', hrewrites, rfl⟩ := hturns c rfl
  obtain ⟨htables, after, hafter, hlength, hnone⟩ := hagain 1
  refine ⟨c', by rw [← hrequests]; exact hrewrites.carryOut_eq, fun s' hs' => ?_⟩
  obtain ⟨pairs', hmatch', hplans', hrequests'⟩ := matchPlans_inlets hs'.symm hafter
  have hcounts := congrArg List.length hs
  have hcounts' := congrArg List.length hs'
  have hpairs := congrArg List.length hplans
  have hpairs' := congrArg List.length hplans'
  simp only [List.length_map] at hcounts hcounts' hpairs hpairs'
  exact ⟨pairs', pairTables_iff.2 ⟨by omega, hmatch'⟩, by omega, hrequests'.trans hnone⟩

/-- Filling the tables of a document once is enough. After the batch for a snapshot has been carried
out, every snapshot of the new document pairs the same plans with the same tables and leaves nothing
to ask for, unless the text for a cell has line feeds and nothing else. A second run of the phase
sends no batch. -/
theorem populationRequests_again (hc : Closed (glyphs c)) (hs : s.Shows c)
    (hpairs : pairTables s plans placed = .ok pairs)
    (hsettled : ∀ pair ∈ pairs, pair.1.Settled) :
    ∃ c', carryOut (populationRequests pairs) c = some c' ∧
      (∀ s' : Snapshot, s'.Shows c' → ∃ pairs', pairTables s' plans placed = .ok pairs' ∧
        PairedAt s.tables (placesOf plans placed 0) pairs ∧
        PairedAt s'.tables (placesOf plans placed 0) pairs' ∧ populationRequests pairs' = []) ∧
      ∀ (service : Service) (document : String),
        service.run (populateTables document plans placed) c =
          (.ok ⟨pairs.length, (populationRequests pairs).length⟩, c') ∧
        service.run (populateTables document plans placed) c' = (.ok ⟨pairs.length, 0⟩, c') := by
  obtain ⟨c', hcarry, hagain⟩ := carryOut_populationRequests_again hc hs hpairs hsettled
  refine ⟨c', hcarry, fun s' hs' => ?_, fun service document =>
    ⟨populateTables_run_of_shows service document hs hpairs hcarry, ?_⟩⟩
  · obtain ⟨pairs', hpairs', -, hnone⟩ := hagain s' hs'
    exact ⟨pairs', hpairs', pairTables_places hpairs, pairTables_places hpairs', hnone⟩
  · have hfetch : (service.fetch document c').Shows c' :=
      Snapshot.shows_of_outline (service.exact document c')
    obtain ⟨pairs', hpairs', hcount, hnone⟩ := hagain _ hfetch
    have hrun := populateTables_run_of_shows service document hfetch hpairs'
      (show carryOut (populationRequests pairs') c' = some c' by rw [hnone]; rfl)
    rwa [hcount, hnone] at hrun

theorem populationRequests_again_halfFilled :
    let cell (content : Node) : Node := .new .tableCell [content]
    let plan := TablePlan.ofNode 7 (.new (.table "") [
      .new .tableRow [cell (.new .strong [.leaf (.text "new\nline")]), cell (.leaf (.text "more"))],
      .new .tableRow [cell (.leaf (.image "picture" "")), cell (.leaf (.text "more"))]])
    let c (first : Content) :=
      inLook .plain (glyphsOf "a\n" ++ [.tableStart, .rowStart, .cellStart]) ++ (first ++
        inLook .plain (glyphsOf "\n" ++ cellGlyphs (glyphsOf "old\n") ++ rowGlyphs
          [glyphsOf "\n", tableGlyphs [[glyphsOf "\n"]] ++ glyphsOf "\n"] ++ [.tableStop]))
    let filled := c (inLook (cellLook [.strong]) (glyphsOf "new\nline"))
    let s := Service.reference.fetch "document" (c [])
    Closed (glyphs (c [])) ∧ s.Shows (c []) ∧ plan.Settled ∧
      ∃ pairs, pairTables s [plan] [7] = .ok pairs ∧ pairs.map (·.1.ordinal) = [7] ∧
        carryOut (populationRequests pairs) (c []) = some filled ∧
        Service.reference.run (populateTables "document" [plan] [7]) filled =
          (.ok ⟨1, 0⟩, filled) := by
  intro cell plan c filled s
  have hplain : ∀ text, Closed (glyphsOf text) := fun text => by
    simpa using Closed.append_plain (isPlain_glyphsOf text) .nil
  have hc : Closed (glyphs (c [])) := by
    have hcells : ∀ cells ∈ [[glyphsOf "\n", glyphsOf "old\n"],
        [glyphsOf "\n", tableGlyphs [[glyphsOf "\n"]] ++ glyphsOf "\n"]],
        ∀ cell ∈ cells, Closed cell := by
      have hinner : Closed (tableGlyphs [[glyphsOf "\n"]] ++ glyphsOf "\n") :=
        .table (by simp [hplain]) (hplain _)
      simp [hplain, hinner]
    exact Closed.append_plain (isPlain_glyphsOf "a\n") (.table hcells .nil)
  have hs : s.Shows (c []) := Snapshot.shows_of_outline (Service.reference.exact "document" _)
  have hsettled : plan.Settled := TablePlan.settled_of_isSettled (by decide +kernel)
  have hpairs : pairTables s [plan] [7] = .ok ([plan].zip s.tables) := by rfl
  have hcarry : carryOut (populationRequests ([plan].zip s.tables)) (c []) = some filled := by
    decide +kernel
  have hplans : ∀ pair ∈ [plan].zip s.tables, pair.1.Settled := by
    intro pair hpair
    rw [List.mem_singleton.1 (List.of_mem_zip hpair).1]
    exact hsettled
  obtain ⟨c', hcarry', -, hruns⟩ := populationRequests_again hc hs hpairs hplans
  obtain rfl : filled = c' := Option.some.inj (hcarry.symm.trans hcarry')
  exact ⟨hc, hs, hsettled, _, hpairs, rfl, hcarry, (hruns .reference "document").2⟩

end

end Folio
