import Folio.Proofs.Table.Pairing
import Folio.Proofs.Table.Skeletons
/-!
The second of the later phases. What is written into a cell is the text below its node, bold below a
strong node and italic below an emphasis (`emitCell_puts`). Cells, rows and tables are filled from
the last one back, each at the place where the snapshot has it (`populateTables_run`).
-/
set_option autoImplicit false

namespace Folio

open Edit Remote Draft

def Kind.cellLook (kind : Kind) (l : Look) : Look :=
  match kind with
  | .strong => { l with text := overlay .isBold l.text }
  | .emphasis => { l with text := overlay .isItalic l.text }
  | _ => l

mutual

/-- The text below a node in a cell. Links, pictures and all other styles are left out. -/
def Node.cellSpots (l : Look) : Node → Content
  | .mk _ kind children =>
    match kind with
    | .text value | .inlineCode value => inLook l (glyphsOf value)
    | kind => cellSpotsAll (kind.cellLook l) children

def cellSpotsAll (l : Look) : List Node → Content
  | [] => []
  | n :: ns => n.cellSpots l ++ cellSpotsAll l ns

end

theorem cellLook_comm (kind kind' : Kind) (l : Look) :
    kind.cellLook (kind'.cellLook l) = kind'.cellLook (kind.cellLook l) := by
  cases kind <;> cases kind' <;> rfl

mutual

theorem cellSpots_under (outer : Kind) (l : Look) : (n : Node) →
    n.cellSpots (outer.cellLook l) = (n.cellSpots l).map (Spot.mapLook outer.cellLook)
  | .mk id kind children => by
    have hall := cellSpotsAll_under outer (kind.cellLook l) children
    rw [cellLook_comm] at hall
    cases kind with
    | text value => exact (mapLook_inLook _ l _).symm
    | inlineCode value => exact (mapLook_inLook _ l _).symm
    | _ => exact hall

theorem cellSpotsAll_under (outer : Kind) (l : Look) : (ns : List Node) →
    cellSpotsAll (outer.cellLook l) ns = (cellSpotsAll l ns).map (Spot.mapLook outer.cellLook)
  | [] => rfl
  | n :: ns => by
    rw [cellSpotsAll, cellSpotsAll, List.map_append, cellSpots_under outer l n,
      cellSpotsAll_under outer l ns]

end

mutual

theorem emitCell_puts : (n : Node) → (d : Draft) → Puts (n.cellSpots .plain) [] d (n.emitCell d)
  | .mk id kind children, d => by
    have hall := emitCells_puts children d
    have hlook := cellSpotsAll_under kind .plain children
    cases kind with
    | text value => exact puts_insert d value
    | inlineCode value => exact puts_insert d value
    | strong =>
      simp only [Node.cellSpots, Node.emitCell, hlook]
      exact hall.pushText .isBold
    | emphasis =>
      simp only [Node.cellSpots, Node.emitCell, hlook]
      exact hall.pushText .isItalic
    | _ => exact hall

theorem emitCells_puts : (ns : List Node) → (d : Draft) →
    Puts (cellSpotsAll .plain ns) [] d (emitCells ns d)
  | [], d => Puts.refl d
  | n :: ns, d => (emitCell_puts n d).trans (emitCells_puts ns _)

end

theorem rewrites_cellRequests (n : Node) (p : Nat) :
    Rewrites p (n.cellRequests p) [] (n.cellSpots .plain) := by
  obtain ⟨-, -, rs, hrs, hw⟩ := emitCell_puts n (.startingAt ⟨p⟩)
  rw [Node.cellRequests, hrs]
  exact hw

def filledCell (content : Option Node) : Content :=
  inLook .plain [.cellStart] ++
    ((content.map (Node.cellSpots .plain)).getD [] ++ inLook .plain [.char '\n'])

def filledRow (plan : TablePlan) (row : Nat) : Content :=
  inLook .plain [.rowStart] ++
    (List.range plan.columns).flatMap fun column => filledCell (plan.cell? row column)

def filledTable (plan : TablePlan) : Content :=
  inLook .plain [.tableStart] ++
    ((List.range plan.rows).flatMap (filledRow plan) ++ inLook .plain [.tableStop])

def filledView : TableView := fun ordinal _ node => filledTable (.ofNode ordinal node)

theorem inLook_append (look : Look) (as bs : List Glyph) :
    inLook look (as ++ bs) = inLook look as ++ inLook look bs :=
  List.map_append

section

variable (plan : TablePlan)

theorem rewrites_cellPopulation (row column p : Nat) :
    Rewrites p (cellPopulation plan row column (blankCellAt p)) (inLook .plain blankCell)
      (filledCell (plan.cell? row column)) := by
  have hblank : (blankCellAt p).isBlank = true := by
    simp [blankCellAt, Snapshot.Cell.isBlank, Snapshot.Cell.content, Snapshot.Element.table,
      Snapshot.Element.line, Snapshot.Element.text, Snapshot.Element.paragraph, String.join]
  have hstart : (blankCellAt p).contentStart = p + 1 := rfl
  unfold cellPopulation
  cases plan.cell? row column with
  | none => exact .nil p _
  | some content =>
    simp only [hblank, hstart, if_true]
    have hcontent :=
      (rewrites_cellRequests content (p + 1)).appendRight (inLook .plain [.char '\n'])
    exact hcontent.appendLeft (inLook .plain [.cellStart]) rfl

theorem rewrites_cells (row n column p : Nat) :
    Rewrites p
      (((blankCellsAt p n).zipIdx column).reverse.flatMap fun (cell, column) =>
        cellPopulation plan row column cell)
      (inLook .plain (List.replicate n blankCell).flatten)
      ((List.range' column n).flatMap fun column => filledCell (plan.cell? row column)) := by
  induction n generalizing column p with
  | zero => exact .nil p []
  | succ n ih =>
    have hboth := (rewrites_cellPopulation plan row column p).backward (ih (column + 1) (p + 2)) rfl
    rw [List.replicate_succ, List.flatten_cons, inLook_append, List.range'_succ, List.flatMap_cons,
      blankCellsAt, List.zipIdx_cons, List.reverse_cons, List.flatMap_append]
    simpa using hboth

theorem rewrites_rowPopulation (row p : Nat) :
    Rewrites p (rowPopulation plan row (blankRowAt p plan.columns))
      (inLook .plain (blankRow plan.columns)) (filledRow plan row) := by
  have hcells := rewrites_cells plan row plan.columns 0 (p + 1)
  rw [← List.range_eq_range'] at hcells
  exact hcells.appendLeft (inLook .plain [.rowStart]) rfl

theorem rewrites_rows (n row p : Nat) :
    Rewrites p
      (((blankRowsAt p plan.columns n).zipIdx row).reverse.flatMap fun (r, row) =>
        rowPopulation plan row r)
      (inLook .plain (List.replicate n (blankRow plan.columns)).flatten)
      ((List.range' row n).flatMap (filledRow plan)) := by
  induction n generalizing row p with
  | zero => exact .nil p []
  | succ n ih =>
    have hboth := (rewrites_rowPopulation plan row p).backward
      (ih (row + 1) (p + rowLength plan.columns)) (by simp [blankRow_length])
    rw [List.replicate_succ, List.flatten_cons, inLook_append, List.range'_succ, List.flatMap_cons,
      blankRowsAt, List.zipIdx_cons, List.reverse_cons, List.flatMap_append]
    simpa using hboth

theorem rewrites_tablePopulation (p : Nat) :
    Rewrites p (tablePopulation plan (blankTableAt p plan.rows plan.columns))
      (inLook .plain (blankTable plan.rows plan.columns)) (filledTable plan) := by
  have hrows := rewrites_rows plan plan.rows 0 (p + 1)
  rw [← List.range_eq_range'] at hrows
  have hglyphs : inLook .plain (blankTable plan.rows plan.columns) =
      inLook .plain [.tableStart] ++
        (inLook .plain (List.replicate plan.rows (blankRow plan.columns)).flatten ++
          inLook .plain [.tableStop]) := by
    rw [← inLook_append, ← inLook_append]
    rfl
  rw [hglyphs]
  exact (hrows.appendRight _).appendLeft (inLook .plain [.tableStart]) rfl

end

section

variable {us : List Site} {ts : List Snapshot.Table}

theorem checkShape_sites (hrows : ∀ site ∈ us, 1 ≤ site.node.tableShape.1)
    (hts : ts.map Snapshot.Table.outline = us.map Site.skeleton) :
    List.Forall₂ (fun plan t => checkShape plan t = .ok ()) (us.map Site.plan) ts := by
  induction us generalizing ts with
  | nil =>
    rw [List.map_eq_nil_iff.1 hts]
    exact .nil
  | cons u us ih =>
    obtain ⟨t, ts, rfl, ht, hrest⟩ := List.map_eq_cons_iff.1 hts
    rw [List.forall_mem_cons] at hrows
    exact .cons (checkShape_of_outline hrows.1 ht) (ih hrows.2 hrest)

theorem populationRequests_sites (hts : ts.map Snapshot.Table.outline = us.map Site.skeleton) :
    populationRequests ((us.map Site.plan).zip ts) =
      us.reverse.flatMap fun site => tablePopulation site.plan site.skeleton := by
  induction us generalizing ts with
  | nil => rfl
  | cons u us ih =>
    cases ts with
    | nil => cases hts
    | cons t ts =>
      obtain ⟨ht, hts⟩ := List.cons.inj hts
      have hrest := ih hts
      simp only [populationRequests] at hrest
      simp only [populationRequests, List.map_cons, List.zip_cons_cons, List.reverse_cons,
        List.flatMap_append, hrest, ← ht, List.flatMap_singleton, tablePopulation_outline]

end

theorem rewrites_populationRequests (s : Setting) (ps : List Piece) :
    Rewrites 1
      ((sites s skeletonView 0 1 ps).reverse.flatMap fun site =>
        tablePopulation site.plan site.skeleton)
      (render s skeletonView 0 ps) (render s filledView 0 ps) :=
  rewrites_sites fun site _ _ => rewrites_tablePopulation site.plan site.position

theorem populateTables_run (s : Setting) {ps : List Piece}
    (hshape : ∀ node ∈ ps.filterMap Piece.node?, 1 ≤ node.tableShape.1) (service : Service)
    (document : String) :
    ∃ requests, service.run
        (populateTables document (plansFrom 0 ps) (List.range (plansFrom 0 ps).length))
        (render s skeletonView 0 ps) =
      (.ok ⟨(plansFrom 0 ps).length, requests⟩, render s filledView 0 ps) := by
  have hord := sites_ordinals_eq_range s skeletonView 1 ps
  have hplans := plansFrom_eq_sites s skeletonView 0 1 ps
  have htables : (service.fetch document (render s skeletonView 0 ps)).tables.map
      Snapshot.Table.outline = (sites s skeletonView 0 1 ps).map Site.skeleton := by
    rw [Snapshot.tables_outline, service.exact]
    exact tables_skeletons 0 1 ps
  have hrows : ∀ site ∈ sites s skeletonView 0 1 ps, 1 ≤ site.node.tableShape.1 :=
    fun site hsite => hshape _ (node_mem_of_mem_sites s _ hsite)
  have hcount := congrArg List.length htables
  rw [List.length_map, List.length_map] at hcount
  have hcarry := (rewrites_populationRequests s ps).carryOut_eq
  rw [← populationRequests_sites htables] at hcarry
  rw [hplans, List.length_map, ← hord]
  have hpair : pairTables (service.fetch document (render s skeletonView 0 ps))
      ((sites s skeletonView 0 1 ps).map Site.plan)
      ((sites s skeletonView 0 1 ps).map (·.ordinal)) =
        .ok (((sites s skeletonView 0 1 ps).map Site.plan).zip
          (service.fetch document (render s skeletonView 0 ps)).tables) := by
    have hzip := pairTables_eq_zip (numbered_sites hord) (List.Sublist.refl _)
      (checkShape_sites hrows htables)
    rw [List.map_map] at hzip
    exact hzip
  refine ⟨(populationRequests (((sites s skeletonView 0 1 ps).map Site.plan).zip
    (service.fetch document (render s skeletonView 0 ps)).tables)).length,
    (service.run_fetch_bind document _ _).trans ?_⟩
  simp only [hpair]
  rw [service.run_bind, service.run_commitBatch document hcarry]
  simp [hcount]

end Folio
