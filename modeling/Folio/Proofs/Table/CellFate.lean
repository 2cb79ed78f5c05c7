import Folio.Proofs.Export.Accounting
import Folio.Proofs.Table.Populating
/-!
What becomes of each planned cell when filling succeeds: it held something before, its content was
sent, or it has no place in the table (`populateTables_fate`). A table is accepted by the number of its
rows and the width of its widest one, so a narrower row loses its last cells without any error.
-/
set_option autoImplicit false

namespace Folio

open Edit Remote Process Exchange

def Snapshot.Table.cell? (t : Table) (row column : Nat) : Option Cell :=
  t.tableRows[row]?.bind (·.cells[column]?)

/-- What became of a planned cell, the exchanges behind the fetch being `t`. -/
inductive CellFate (document : String) (t : List Exchange) (plan : TablePlan)
    (table : Snapshot.Table) (row column : Nat) (content : Node) : Prop where
  | held (cell : Snapshot.Cell) (hcell : table.cell? row column = some cell)
      (h : cell.isBlank = false) : CellFate document t plan table row column content
  | written (cell : Snapshot.Cell) (hcell : table.cell? row column = some cell)
      (rs : List Request) (hsent : committed document rs (.ok ()) ∈ t)
      (h : content.cellRequests cell.contentStart <:+: rs) :
      CellFate document t plan table row column content
  /-- The row is too short, or the plan has fewer rows than its node. -/
  | lost (hcell : table.cell? row column = none)
      (h : plan.rows ≤ row ∨ ∃ r, table.tableRows[row]? = some r ∧ r.cells.length ≤ column) :
      CellFate document t plan table row column content

theorem checkShape_eq_ok {plan : TablePlan} {table : Snapshot.Table}
    (h : checkShape plan table = .ok ()) : table.shape = (plan.rows, plan.columns) := by
  unfold checkShape at h
  dsimp only at h
  split at h
  · rename_i hshape
    exact Prod.ext hshape.1 hshape.2
  · cases h

theorem TablePlan.cell?_ofNode {plan : TablePlan} (hplan : plan = .ofNode plan.ordinal plan.node)
    {row column : Nat} {content : Node} (h : plan.cell? row column = some content) :
    row < plan.rows ∧ column < plan.columns := by
  obtain ⟨r, hr, hcell⟩ := Option.bind_eq_some_iff.1 h
  have hrow := (List.getElem?_eq_some_iff.1 hr).1
  have hcolumn := (List.getElem?_eq_some_iff.1 hcell).1
  have hwidest : r.children.length ≤ plan.node.tableShape.2 :=
    (List.max?_eq_some_iff.1 plan.node.max?_widths).2 _
      (List.mem_cons_of_mem _ (List.mem_map_of_mem (List.mem_of_getElem? hr)))
  rw [hplan]
  exact ⟨hrow, Nat.lt_of_lt_of_le hcolumn hwidest⟩

theorem matchPlans_shape {plans : List TablePlan} {checked : List (Nat × Snapshot.Table)}
    {pairs : List (TablePlan × Snapshot.Table)} (h : matchPlans plans checked = .ok pairs) :
    ∀ pair ∈ pairs, checkShape pair.1 pair.2 = .ok () := by
  induction checked generalizing pairs with
  | nil =>
    cases h
    exact List.forall_mem_nil _
  | cons pair checked ih =>
    rcases matchPlans_cons h with ⟨-, h⟩ | ⟨plan, rest, -, hshape, hrest, rfl⟩
    · exact ih h
    · exact List.forall_mem_cons.2 ⟨hshape, ih hrest⟩

theorem pairTables_shape {s : Snapshot} {plans : List TablePlan} {placed : List Nat}
    {pairs : List (TablePlan × Snapshot.Table)} (h : pairTables s plans placed = .ok pairs) :
    ∀ pair ∈ pairs, checkShape pair.1 pair.2 = .ok () := by
  unfold pairTables at h
  dsimp only at h
  split at h
  · exact matchPlans_shape h
  · cases h

theorem infix_flatMap {α β : Type} (f : α → List β) {a : α} {l : List α} (h : a ∈ l) :
    f a <:+: l.flatMap f := by
  obtain ⟨front, back, rfl⟩ := List.append_of_mem h
  exact ⟨front.flatMap f, back.flatMap f, by simp⟩

def Draft.Grows (d e : Draft) : Prop := e = d ∨ d.requests.length < e.requests.length

theorem Draft.Grows.trans {d e f : Draft} (h : d.Grows e) (h' : e.Grows f) : d.Grows f := by
  rcases h with rfl | h
  · exact h'
  · rcases h' with rfl | h'
    · exact .inr h
    · exact .inr (Nat.lt_trans h h')

theorem Draft.grows_insert (d : Draft) (text : String) : d.Grows (d.insert text) := by
  unfold insert
  split
  · exact .inl rfl
  · exact .inr (by simp [requests, push])

theorem Draft.grows_styleSince (d : Draft) (start : Nat) (style : TextStyle) :
    d.Grows (d.styleSince start style) := by
  unfold styleSince
  split
  · exact .inl rfl
  · exact .inr (by simp [requests, push])

theorem stepwise_grows : Draft.Stepwise Draft.Grows :=
  ⟨fun _ => .inl rfl, .trans, Draft.grows_insert,
    fun style h => h.trans (Draft.grows_styleSince _ _ style)⟩

/-- What has content has requests, wherever it is to stand. -/
theorem Node.cellRequests_ne_nil {n : Node} (h : n.cellContent ≠ []) (start : Nat) :
    n.cellRequests start ≠ [] := by
  intro hnone
  rcases stepwise_grows.emitCell n (.startingAt ⟨start⟩) with hsame | hmore
  · have hindex := (emitCell_puts n (.startingAt ⟨start⟩)).1
    rw [hsame] at hindex
    have hspots : n.cellSpots .plain = [] := List.eq_nil_of_length_eq_zero (by omega)
    have hcontent : n.cellContent = n.cellSpots .plain := (cellSpots_eq [] n).symm
    exact h (hcontent.trans hspots)
  · rw [Node.cellRequests] at hnone
    rw [hnone] at hmore
    exact absurd hmore (Nat.not_lt_zero _)

section

variable {pairs : List (TablePlan × Snapshot.Table)} {plan : TablePlan} {table : Snapshot.Table}
  {row column : Nat} {content : Node}

theorem infix_populationRequests {cell : Snapshot.Cell} (hpair : (plan, table) ∈ pairs)
    (hcell : table.cell? row column = some cell) (hblank : cell.isBlank = true)
    (hcontent : plan.cell? row column = some content) :
    content.cellRequests cell.contentStart <:+: populationRequests pairs := by
  obtain ⟨r, hr, hc⟩ := Option.bind_eq_some_iff.1 hcell
  have hmem : ⟨cell.contentStart, content⟩ ∈ fillings pairs :=
    mem_fillings.2 ⟨plan, table, row, r, column, cell, hpair, hr, hc, hblank, hcontent, rfl⟩
  rw [populationRequests_eq]
  exact infix_flatMap Filling.requests (List.mem_reverse.2 hmem)

theorem cellFate_of_pairTables {s : Snapshot} {plans : List TablePlan} {placed : List Nat}
    (document : String) (hpairs : pairTables s plans placed = .ok pairs)
    (hpair : (plan, table) ∈ pairs) (hcontent : plan.cell? row column = some content)
    (hsome : content.cellContent ≠ []) :
    CellFate document (structureBatch document (populationRequests pairs)) plan table row column
      content := by
  have hshape := checkShape_eq_ok (pairTables_shape hpairs _ hpair)
  cases hcell : table.cell? row column with
  | none =>
    refine .lost hcell ?_
    rcases Nat.lt_or_ge row plan.rows with hrow | hrow
    · have hlength : table.tableRows.length = plan.rows := congrArg Prod.fst hshape
      obtain ⟨r, hr⟩ : ∃ r, table.tableRows[row]? = some r :=
        ⟨_, List.getElem?_eq_getElem (hlength ▸ hrow)⟩
      rw [Snapshot.Table.cell?, hr, Option.bind_some] at hcell
      exact .inr ⟨r, hr, List.getElem?_eq_none_iff.1 hcell⟩
    · exact .inl hrow
  | some cell =>
    cases hblank : cell.isBlank with
    | false => exact .held cell hcell hblank
    | true =>
      have hinfix := infix_populationRequests hpair hcell hblank hcontent
      have hne : populationRequests pairs ≠ [] := by
        intro hnone
        rw [hnone] at hinfix
        exact Node.cellRequests_ne_nil hsome _ (List.infix_nil.1 hinfix)
      refine .written cell hcell _ ?_ hinfix
      rw [structureBatch, if_neg hne]
      exact List.mem_singleton_self _

theorem isSome_cell?_of_wide (hshape : table.shape = (plan.rows, plan.columns))
    (hplan : plan = .ofNode plan.ordinal plan.node)
    (hwide : ∀ r ∈ table.tableRows, plan.columns ≤ r.cells.length)
    (hcontent : plan.cell? row column = some content) : (table.cell? row column).isSome := by
  obtain ⟨hrow, hcolumn⟩ := TablePlan.cell?_ofNode hplan hcontent
  have hlength : table.tableRows.length = plan.rows := congrArg Prod.fst hshape
  obtain ⟨r, hr⟩ : ∃ r, table.tableRows[row]? = some r :=
    ⟨_, List.getElem?_eq_getElem (hlength ▸ hrow)⟩
  have hlong := hwide r (List.mem_of_getElem? hr)
  rw [Snapshot.Table.cell?, hr, Option.bind_some, List.getElem?_eq_getElem (by omega)]
  rfl

end

/-- When filling succeeds, the document was fetched once and what it takes to fill its tables was sent in
one batch. Each planned cell with content that its table has held something before or its content was
sent. A cell that the table has not is lost: its row is too short, unless the plan has not the shape of
its node. Tables whose rows are all as wide as planned lose nothing. -/
theorem populateTables_fate {document : String} {plans : List TablePlan} {placed : List Nat}
    {t : List Exchange} {population : Population}
    (h : (populateTables document plans placed).Runs t (.ok population)) :
    ∃ s pairs, pairTables s plans placed = .ok pairs ∧
      t = fetched document (.ok s) :: structureBatch document (populationRequests pairs) ∧
      population = ⟨pairs.length, (populationRequests pairs).length⟩ ∧
      ∀ plan table, (plan, table) ∈ pairs → table.shape = (plan.rows, plan.columns) ∧
        ∀ row column content, plan.cell? row column = some content → content.cellContent ≠ [] →
          CellFate document (structureBatch document (populationRequests pairs)) plan table row column
            content ∧
          (plan = .ofNode plan.ordinal plan.node → row < plan.rows ∧ column < plan.columns ∧
            ((∀ r ∈ table.tableRows, plan.columns ≤ r.cells.length) →
              (table.cell? row column).isSome)) := by
  obtain ⟨s, pairs, hpairs, rfl, rfl⟩ := runs_populateTables_ok.1 h
  refine ⟨s, pairs, hpairs, rfl, rfl, fun plan table hpair => ?_⟩
  have hshape := checkShape_eq_ok (pairTables_shape hpairs _ hpair)
  refine ⟨hshape, fun row column content hcontent hsome => ?_⟩
  refine ⟨cellFate_of_pairTables document hpairs hpair hcontent hsome, fun hplan => ?_⟩
  obtain ⟨hrow, hcolumn⟩ := TablePlan.cell?_ofNode hplan hcontent
  exact ⟨hrow, hcolumn, fun hwide => isSome_cell?_of_wide hshape hplan hwide hcontent⟩

def textCell (text : String) : Node := .new .tableCell [.leaf (.text text)]

def squarePlan : TablePlan :=
  .ofNode 0 (.new (.table "") [.new .tableRow [textCell "a", textCell "b"],
    .new .tableRow [textCell "c", textCell "d"]])

def narrowTable : Snapshot.Table :=
  let cell (start : Nat) : Snapshot.Cell :=
    .mk start (start + 2) [.mk (start + 1) (start + 2) (some [⟨start + 1, start + 2, some "\n"⟩]) none]
  .mk 2 2 [.mk 2 7 [cell 3, cell 5], .mk 7 10 [cell 8]]

def narrowSnapshot : Snapshot := ⟨"document", "", [.mk 1 11 none (some narrowTable)]⟩

def narrowTrace : List Exchange :=
  [fetched "document" (.ok narrowSnapshot),
    committed "document" [.insertText 9 "c", .insertText 6 "b", .insertText 4 "a"] (.ok ())]

theorem pairTables_narrow :
    pairTables narrowSnapshot [squarePlan] [0] = .ok [(squarePlan, narrowTable)] := rfl

theorem populationRequests_narrow : populationRequests [(squarePlan, narrowTable)] =
    [.insertText 9 "c", .insertText 6 "b", .insertText 4 "a"] := by
  decide +kernel

theorem runs_narrow :
    (populateTables "document" [squarePlan] [0]).Runs narrowTrace (.ok ⟨1, 3⟩) := by
  refine runs_populateTables_ok.2 ⟨narrowSnapshot, _, pairTables_narrow, ?_, ?_⟩ <;>
  · rw [populationRequests_narrow]
    rfl

theorem populateTables_fate_narrow :
    CellFate "document" narrowTrace.tail squarePlan narrowTable 1 0 (textCell "c") ∧
      CellFate "document" narrowTrace.tail squarePlan narrowTable 1 1 (textCell "d") := by
  obtain ⟨s, pairs, hpairs, htrace, -, hfate⟩ := populateTables_fate runs_narrow
  obtain ⟨hfetched, htail⟩ := List.cons.inj htrace
  cases hfetched
  cases pairTables_narrow.symm.trans hpairs
  rw [← htail] at hfate
  obtain ⟨-, hcells⟩ := hfate squarePlan narrowTable (List.mem_singleton_self _)
  exact ⟨(hcells 1 0 _ rfl (by decide +kernel)).1, (hcells 1 1 _ rfl (by decide +kernel)).1⟩

/-- Filling succeeds with the table, and "d" is written nowhere. -/
theorem narrowRow_lost :
    (populateTables "document" [squarePlan] [0]).Runs narrowTrace (.ok ⟨1, 3⟩) ∧
      checkShape squarePlan narrowTable = .ok () ∧
      pairTables narrowSnapshot [squarePlan] [0] = .ok [(squarePlan, narrowTable)] ∧
      squarePlan.cell? 1 1 = some (textCell "d") ∧ (textCell "d").cellContent ≠ [] ∧
      narrowTable.cell? 1 1 = none ∧
      ∀ position, .insertText position "d" ∉ populationRequests [(squarePlan, narrowTable)] := by
  refine ⟨runs_narrow, rfl, pairTables_narrow, rfl, by decide +kernel, rfl, fun position => ?_⟩
  rw [populationRequests_narrow]
  simp

end Folio
