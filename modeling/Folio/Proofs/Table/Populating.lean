import Mathlib.Data.List.Flatten
import Folio.Proofs.Draft.Steps
import Folio.Proofs.Remote.Replacement
import Folio.Proofs.Table.Filling
import Folio.Proofs.Table.Pairing
/-!
Cells that are filled from a snapshot, whatever they hold. The whole batch is one replacement of the
content starts of the blank cells by the text that is planned for them, nothing else being touched
(`populationRequests_exact`): all positions come from one snapshot and stay right, since the
requests go through the cells backwards.
-/
set_option autoImplicit false

namespace Folio

open Edit Remote

mutual

/-- The texts and inline code below a node in order, each with the kinds of the nodes around it. -/
def Node.cellTexts (above : List Kind) : Node → List (List Kind × String)
  | .mk _ kind children =>
    match kind with
    | .text value | .inlineCode value => [(above, value)]
    | kind => cellTextsAll (above ++ [kind]) children

def cellTextsAll (above : List Kind) : List Node → List (List Kind × String)
  | [] => []
  | n :: ns => n.cellTexts above ++ cellTextsAll above ns

end

/-- Text in a cell is bold below a strong node and italic below an emphasis, and has no other
style. -/
def cellLook (above : List Kind) : Look where
  text := {
    bold := if Kind.strong ∈ above then some true else none
    italic := if Kind.emphasis ∈ above then some true else none }
  heading := none

def Node.cellContent (n : Node) : Content :=
  (n.cellTexts []).flatMap fun (above, value) => inLook (cellLook above) (glyphsOf value)

theorem cellLook_concat (above : List Kind) (kind : Kind) :
    cellLook (above ++ [kind]) = kind.cellLook (cellLook above) := by
  cases kind <;> simp [cellLook, Kind.cellLook, overlay, TextStyle.isBold, TextStyle.isItalic]

mutual

theorem cellSpots_eq (above : List Kind) : (n : Node) → n.cellSpots (cellLook above) =
    (n.cellTexts above).flatMap fun (above, value) => inLook (cellLook above) (glyphsOf value)
  | .mk id kind children => by
    have hall := cellSpotsAll_eq (above ++ [kind]) children
    rw [cellLook_concat] at hall
    cases kind with
    | text value => exact (List.append_nil _).symm
    | inlineCode value => exact (List.append_nil _).symm
    | _ => exact hall

theorem cellSpotsAll_eq (above : List Kind) : (ns : List Node) →
    cellSpotsAll (cellLook above) ns = (cellTextsAll above ns).flatMap
      fun (above, value) => inLook (cellLook above) (glyphsOf value)
  | [] => rfl
  | n :: ns => by
    rw [cellSpotsAll, cellTextsAll, List.flatMap_append, cellSpots_eq above n,
      cellSpotsAll_eq above ns]

end

theorem rewrites_cellContent (n : Node) (p : Nat) :
    Rewrites p (n.cellRequests p) [] n.cellContent := by
  have h := rewrites_cellRequests n p
  rwa [show Look.plain = cellLook [] from rfl, cellSpots_eq] at h

structure Filling where
  position : Nat
  content : Node

namespace Filling

def requests (f : Filling) : List Request := f.content.cellRequests f.position

def insertion (f : Filling) : Replacement := ⟨⟨f.position, f.position⟩, f.content.cellContent⟩

end Filling

/-- A blank cell gets the content that is planned for it, if any, at its content start. -/
def cellFillings (plan : TablePlan) (row column : Nat) (cell : Snapshot.Cell) : List Filling :=
  if cell.isBlank then (plan.cell? row column).toList.map (⟨cell.contentStart, ·⟩) else []

def rowFillings (plan : TablePlan) (row : Nat) (r : Snapshot.Row) : List Filling :=
  r.cells.zipIdx.flatMap fun (cell, column) => cellFillings plan row column cell

def tableFillings (plan : TablePlan) (table : Snapshot.Table) : List Filling :=
  table.tableRows.zipIdx.flatMap fun (r, row) => rowFillings plan row r

def fillings (pairs : List (TablePlan × Snapshot.Table)) : List Filling :=
  pairs.flatMap fun (plan, table) => tableFillings plan table

theorem mem_cellFillings {plan : TablePlan} {row column : Nat} {cell : Snapshot.Cell}
    {f : Filling} :
    f ∈ cellFillings plan row column cell ↔ cell.isBlank ∧ plan.cell? row column = some f.content ∧
      f.position = cell.contentStart := by
  obtain ⟨position, content⟩ := f
  unfold cellFillings
  cases cell.isBlank <;> cases plan.cell? row column <;> simp [and_comm, eq_comm]

theorem mem_fillings {pairs : List (TablePlan × Snapshot.Table)} {f : Filling} :
    f ∈ fillings pairs ↔ ∃ plan table row r column cell, (plan, table) ∈ pairs ∧
      table.tableRows[row]? = some r ∧ r.cells[column]? = some cell ∧ cell.isBlank ∧
        plan.cell? row column = some f.content ∧ f.position = cell.contentStart := by
  simp only [fillings, tableFillings, rowFillings, List.mem_flatMap, Prod.exists,
    List.mk_mem_zipIdx_iff_getElem?, mem_cellFillings]
  constructor
  · rintro ⟨plan, table, hpair, r, row, hrow, cell, column, hcell, h⟩
    exact ⟨plan, table, row, r, column, cell, hpair, hrow, hcell, h⟩
  · rintro ⟨plan, table, row, r, column, cell, hpair, hrow, hcell, h⟩
    exact ⟨plan, table, hpair, r, row, hrow, cell, column, hcell, h⟩

theorem flatMap_reverse_flatMap {α β γ : Type} (l : List α) (g : α → List β) (f : β → List γ) :
    l.reverse.flatMap (fun a => (g a).reverse.flatMap f) = (l.flatMap g).reverse.flatMap f := by
  rw [List.reverse_flatMap, List.flatMap_assoc]
  rfl

theorem cellPopulation_eq (plan : TablePlan) (row column : Nat) (cell : Snapshot.Cell) :
    cellPopulation plan row column cell =
      (cellFillings plan row column cell).reverse.flatMap Filling.requests := by
  unfold cellPopulation cellFillings
  cases plan.cell? row column <;> cases cell.isBlank <;> simp [Filling.requests]

theorem populationRequests_eq (pairs : List (TablePlan × Snapshot.Table)) :
    populationRequests pairs = (fillings pairs).reverse.flatMap Filling.requests := by
  simp only [populationRequests, tablePopulation, rowPopulation, cellPopulation_eq,
    flatMap_reverse_flatMap]
  rfl

namespace Snapshot

def Table.cells (t : Table) : List Cell := t.tableRows.flatMap (·.cells)

def cells (s : Snapshot) : List Cell := s.tables.flatMap Table.cells

/-- The cells lie one behind the other in a document of `length` spots, and the content of each
begins inside it. -/
structure Exact (s : Snapshot) (length : Nat) : Prop where
  order : s.cells.Pairwise fun a b => a.stop ≤ b.start
  content : ∀ cell ∈ s.cells, cell.start < cell.contentStart ∧ cell.contentStart ≤ cell.stop
  inside : ∀ cell ∈ s.cells, cell.stop ≤ length + 1

theorem Exact.ascending {s : Snapshot} {length : Nat} (h : s.Exact length) :
    (s.cells.map (·.contentStart)).Pairwise (· < ·) := by
  refine List.pairwise_map.2 (h.order.imp_of_mem fun ha hb hab => ?_)
  have h1 := h.content _ ha
  have h2 := h.content _ hb
  omega

end Snapshot

open Snapshot (Cell Row)

section

variable {plans : List TablePlan} {pairs : List (TablePlan × Snapshot.Table)}

theorem cellFillings_sublist (plan : TablePlan) (row column : Nat) (cell : Cell) :
    ((cellFillings plan row column cell).map (·.position)).Sublist [cell.contentStart] := by
  unfold cellFillings
  split
  · cases plan.cell? row column <;> simp
  · simp

theorem rowFillings_sublist (plan : TablePlan) (row : Nat) (r : Row) :
    ((rowFillings plan row r).map (·.position)).Sublist (r.cells.map (·.contentStart)) := by
  have hcells : r.cells.map (·.contentStart) =
      r.cells.zipIdx.flatMap fun (cell, _) => [cell.contentStart] := by
    conv => lhs; rw [← List.zipIdx_map_fst 0 r.cells, List.map_map]
    exact List.map_eq_flatMap
  rw [rowFillings, List.map_flatMap, hcells]
  exact .flatMap_right _ fun (cell, column) _ => cellFillings_sublist plan row column cell

theorem tableFillings_sublist (plan : TablePlan) (t : Snapshot.Table) :
    ((tableFillings plan t).map (·.position)).Sublist (t.cells.map (·.contentStart)) := by
  have hrows : t.cells.map (·.contentStart) =
      t.tableRows.zipIdx.flatMap fun (r, _) => r.cells.map (·.contentStart) := by
    rw [Snapshot.Table.cells, List.map_flatMap]
    conv => lhs; rw [← List.zipIdx_map_fst 0 t.tableRows]
    rw [List.flatMap_map]
  rw [tableFillings, List.map_flatMap, hrows]
  exact .flatMap_right _ fun (r, row) _ => rowFillings_sublist plan row r

theorem fillings_sublist {s : Snapshot} {placed : List Nat}
    (h : pairTables s plans placed = .ok pairs) :
    ((fillings pairs).map (·.position)).Sublist (s.cells.map (·.contentStart)) := by
  have hpairs : ((fillings pairs).map (·.position)).Sublist
      (((pairs.map (·.2)).flatMap Snapshot.Table.cells).map (·.contentStart)) := by
    rw [fillings, List.flatMap_map, List.map_flatMap, List.map_flatMap]
    exact .flatMap_right _ fun (plan, table) _ => tableFillings_sublist plan table
  exact hpairs.trans (((pairTables_sublist h).flatMap _).map _)

end

/-! No position is out of date when it is used. -/

def Edit.Request.first : Request → Nat
  | .insertText i _ | .insertImage i _ _ | .insertTable i _ _ => i
  | .styleParagraph range _ _ | .styleText range _ _ | .delete range => range.start

theorem replaceRange_keeps {start stop p : Nat} {f : Content → Content} {c c' : Content}
    (h : replaceRange start stop f c = some c') (hp : p ≤ start) :
    c'.take (p - 1) = c.take (p - 1) := by
  unfold replaceRange at h
  split at h
  · rename_i hin
    have hlen : p - 1 ≤ (c.take (start - 1)).length := by
      rw [List.length_take]
      omega
    cases h
    rw [List.append_assoc, List.take_append_of_le_length hlen, List.take_take,
      Nat.min_eq_left (by omega)]
  · cases h

/-- What stands before all positions that a request asks for stays as it is. -/
theorem applyRequest_keeps {r : Request} {p : Nat} {c c' : Content}
    (h : applyRequest c r = some c') (hp : p ≤ r.first) : c'.take (p - 1) = c.take (p - 1) := by
  cases r with
  | insertText i text | insertImage i uri size =>
    rw [applyRequest] at h
    exact replaceRange_keeps h hp
  | insertTable i rows columns =>
    rw [applyRequest, Option.ite_none_right_eq_some] at h
    exact replaceRange_keeps h.2 hp
  | styleParagraph range level fields | styleText range style fields | delete range =>
    rw [applyRequest, Option.ite_none_left_eq_some] at h
    exact replaceRange_keeps h.2 hp

theorem carryOut_keeps {rs : List Request} {p : Nat} {c c' : Content}
    (h : carryOut rs c = some c') (hp : ∀ r ∈ rs, p ≤ r.first) :
    c'.take (p - 1) = c.take (p - 1) := by
  induction rs generalizing c with
  | nil =>
    cases h
    rfl
  | cons r rs ih =>
    rw [List.forall_mem_cons] at hp
    obtain ⟨d, hd, hrest⟩ := Option.bind_eq_some_iff.1 h
    exact (ih hrest hp.2).trans (applyRequest_keeps hd hp.1)

namespace Draft

/-- Drafting from `d` to `e` asks for no position before the cursor of `d`. -/
def Onward (d e : Draft) : Prop :=
  d.index ≤ e.index ∧ ∃ rs, e.requests = d.requests ++ rs ∧ ∀ r ∈ rs, d.index ≤ r.first

theorem Onward.refl (d : Draft) : Onward d d :=
  ⟨Nat.le_refl _, [], by simp, List.forall_mem_nil _⟩

theorem Onward.trans {d e f : Draft} (h : Onward d e) (h' : Onward e f) : Onward d f := by
  obtain ⟨hle, rs, hrs, hfirst⟩ := h
  obtain ⟨hle', rs', hrs', hfirst'⟩ := h'
  refine ⟨Nat.le_trans hle hle', rs ++ rs', by rw [hrs', hrs, List.append_assoc], ?_⟩
  exact List.forall_mem_append.2 ⟨hfirst, fun r hr => Nat.le_trans hle (hfirst' r hr)⟩

theorem onward_insert (d : Draft) (text : String) : Onward d (d.insert text) := by
  unfold insert
  split
  · exact .refl d
  · exact ⟨Nat.le_add_right _ _, [.insertText d.index text], by simp [requests, push],
      by simp [Request.first]⟩

theorem Onward.styleSince {d e : Draft} (h : Onward d e) (style : TextStyle) :
    Onward d (e.styleSince d.index style) := by
  unfold Draft.styleSince
  split
  · exact h
  · obtain ⟨hle, rs, hrs, hfirst⟩ := h
    refine ⟨hle, rs ++ [.text ⟨d.index, e.index⟩ style], ?_, ?_⟩
    · simp only [requests, push, List.reverse_cons] at hrs ⊢
      rw [hrs, List.append_assoc]
    · exact List.forall_mem_append.2 ⟨hfirst, by simp [Request.text, Request.first]⟩

end Draft

theorem stepwise_onward : Draft.Stepwise Draft.Onward :=
  ⟨.refl, .trans, Draft.onward_insert, fun style h => h.styleSince style⟩

theorem Filling.position_le {f : Filling} {r : Request} (h : r ∈ f.requests) :
    f.position ≤ r.first := by
  obtain ⟨-, rs, hrs, hfirst⟩ := stepwise_onward.emitCell f.content (.startingAt ⟨f.position⟩)
  have hrequests : f.requests = rs := hrs
  rw [hrequests] at h
  exact hfirst r h

theorem exists_of_flatMap_eq {α β : Type} {f : α → List β} {l : List α} {done rest : List β} {b : β}
    (h : l.flatMap f = done ++ b :: rest) :
    ∃ before a after, l = before ++ a :: after ∧ b ∈ f a ∧
      ∀ x ∈ done, ∃ a' ∈ before ++ [a], x ∈ f a' := by
  induction l generalizing done with
  | nil => simp at h
  | cons a l ih =>
    rw [List.flatMap_cons] at h
    rcases List.append_eq_append_iff.1 h with ⟨x, rfl, hx⟩ | ⟨x, hfa, hx⟩
    · obtain ⟨before, a', after, rfl, hb, hdone⟩ := ih hx
      refine ⟨a :: before, a', after, rfl, hb, fun y hy => ?_⟩
      rcases List.mem_append.1 hy with hy | hy
      · exact ⟨a, by simp, hy⟩
      · obtain ⟨a'', ha'', hya⟩ := hdone y hy
        exact ⟨a'', List.mem_cons_of_mem a ha'', hya⟩
    · cases x with
      | nil =>
        obtain ⟨before, a', after, rfl, hb, hdone⟩ := @ih [] hx.symm
        refine ⟨a :: before, a', after, rfl, hb, fun y hy => ⟨a, by simp, ?_⟩⟩
        rw [hfa]
        simpa using hy
      | cons b' x =>
        obtain ⟨rfl, -⟩ := List.cons.inj hx
        exact ⟨[], a, l, rfl, by simp [hfa], fun y hy => ⟨a, by simp, by simp [hfa, hy]⟩⟩

section

variable {plans : List TablePlan} {pairs : List (TablePlan × Snapshot.Table)} {s : Snapshot}
  {placed : List Nat} {c : Content}

theorem fillings_ascending (hpairs : pairTables s plans placed = .ok pairs)
    (hexact : s.Exact c.length) : (fillings pairs).Pairwise (·.position < ·.position) :=
  List.pairwise_map.1 (hexact.ascending.sublist (fillings_sublist hpairs))

theorem fillings_inside (hpairs : pairTables s plans placed = .ok pairs)
    (hexact : s.Exact c.length) :
    ∀ f ∈ fillings pairs, 1 ≤ f.position ∧ f.position ≤ 1 + c.length := by
  intro f hf
  obtain ⟨cell, hcell, hstart⟩ := List.mem_map.1
    ((fillings_sublist hpairs).mem (List.mem_map_of_mem hf))
  have hcontent := hexact.content cell hcell
  have hinside := hexact.inside cell hcell
  omega

theorem carryOut_populationRequests (hpairs : pairTables s plans placed = .ok pairs)
    (hexact : s.Exact c.length) :
    carryOut (populationRequests pairs) c =
      some (replaceAll ((fillings pairs).map Filling.insertion) 1 c) := by
  have hbatch := @foldlM_replaceAll Filling applyRequest (fillings pairs) Filling.insertion
    Filling.requests 1 [] c
    ((fillings_ascending hpairs hexact).imp fun hlt => Nat.le_of_lt hlt)
    (fun f hf => by
      obtain ⟨hone, hle⟩ := fillings_inside hpairs hexact f hf
      exact ⟨hone, Nat.le_refl _, hle⟩)
    (fun f _ before old after hstart hstop => by
      have hold : old = [] := List.eq_nil_of_length_eq_zero (by
        simp only [Filling.insertion] at hstop
        omega)
      have hcontent := rewrites_cellContent f.content f.position before after hstart
      rw [carryOut_eq_foldlM] at hcontent
      rw [hold]
      exact hcontent)
    rfl []
  rw [carryOut_eq_foldlM, populationRequests_eq]
  simpa using hbatch

/-- When a request of the batch is carried out, the document before its cell is still the one that
the snapshot was taken of. -/
theorem populationRequests_current (hpairs : pairTables s plans placed = .ok pairs)
    (hexact : s.Exact c.length) {done rest : List Request} {r : Request}
    (h : populationRequests pairs = done ++ r :: rest) :
    ∃ f ∈ fillings pairs, r ∈ f.requests ∧ f.position ≤ r.first ∧
      ∃ c', carryOut done c = some c' ∧ c'.take (f.position - 1) = c.take (f.position - 1) := by
  have hcarry := carryOut_populationRequests hpairs hexact
  rw [h, carryOut_append, Option.bind_eq_some_iff] at hcarry
  obtain ⟨c', hdone, -⟩ := hcarry
  rw [populationRequests_eq] at h
  obtain ⟨before, f, after, hsplit, hr, hbefore⟩ := exists_of_flatMap_eq h
  have hf : f ∈ fillings pairs := by
    rw [← List.mem_reverse, hsplit]
    simp
  have hdescending : (before ++ f :: after).Pairwise fun a b => b.position < a.position := by
    rw [← hsplit, List.pairwise_reverse]
    exact fillings_ascending hpairs hexact
  -- All requests before `r` are for later cells, or for the same one.
  have hfirst : ∀ r' ∈ done, f.position ≤ r'.first := by
    intro r' hr'
    obtain ⟨f', hf', hmem⟩ := hbefore r' hr'
    refine Nat.le_trans ?_ (Filling.position_le hmem)
    rcases List.mem_append.1 hf' with hf' | hf'
    · exact Nat.le_of_lt ((List.pairwise_append.1 hdescending).2.2 f' hf' f (by simp))
    · exact Nat.le_of_eq (congrArg (·.position) (List.mem_singleton.1 hf').symm)
  exact ⟨f, hf, hr, Filling.position_le hr, c', hdone, carryOut_keeps hdone hfirst⟩

/-- Filling cells from an exact snapshot: at the content start of each blank cell with a plan stands
the planned text afterwards, and every spot of the document is where it was among the others. The
cells are gone through from the last one to the first, and no request meets a position that an
earlier one has moved. -/
theorem populationRequests_exact (hpairs : pairTables s plans placed = .ok pairs)
    (hexact : s.Exact c.length) :
    (∀ f, f ∈ fillings pairs ↔ ∃ plan table row r column cell, (plan, table) ∈ pairs ∧
        table.tableRows[row]? = some r ∧ r.cells[column]? = some cell ∧ cell.isBlank ∧
          plan.cell? row column = some f.content ∧ f.position = cell.contentStart) ∧
      carryOut (populationRequests pairs) c =
        some (replaceAll ((fillings pairs).map Filling.insertion) 1 c) ∧
      (fillings pairs).Pairwise (·.position < ·.position) ∧
      populationRequests pairs = (fillings pairs).reverse.flatMap Filling.requests ∧
      ∀ done r rest, populationRequests pairs = done ++ r :: rest →
        ∃ f ∈ fillings pairs, r ∈ f.requests ∧ f.position ≤ r.first ∧
          ∃ c', carryOut done c = some c' ∧
            c'.take (f.position - 1) = c.take (f.position - 1) :=
  ⟨fun _ => mem_fillings, carryOut_populationRequests hpairs hexact,
    fillings_ascending hpairs hexact, populationRequests_eq pairs,
    fun _ _ _ h => populationRequests_current hpairs hexact h⟩

theorem populationRequests_halfFilled :
    let cell (content : Node) : Node := .new .tableCell [content]
    let plan := TablePlan.ofNode 0 (.new (.table "") [.new .tableRow
      [cell (.new .strong [.leaf (.text "new")]), cell (.leaf (.text "more"))]])
    let c (first : Content) := inLook .plain (glyphsOf "a\n") ++
      (inLook .plain [.tableStart, .rowStart, .cellStart] ++ first ++
        inLook .plain (glyphsOf "\n" ++ [.cellStart] ++ glyphsOf "old\n" ++ [.tableStop]))
    let s := Service.reference.fetch "document" (c [])
    ∃ pairs, pairTables s [plan] [0] = .ok pairs ∧ s.Exact (c []).length ∧
      carryOut (populationRequests pairs) (c []) =
        some (c (inLook (cellLook [.strong]) (glyphsOf "new"))) := by
  intro cell plan c s
  have hpairs : pairTables s [plan] [0] = .ok (([plan].zip s.tables)) := by rfl
  have hexact : s.Exact (c []).length := ⟨by decide, by decide, by decide⟩
  exact ⟨_, hpairs, hexact, (populationRequests_exact hpairs hexact).2.1.trans (by decide)⟩

end

end Folio
