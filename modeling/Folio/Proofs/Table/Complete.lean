import Folio.Proofs.Document.Shaped
import Folio.Proofs.Table.Filling
/-!
From a tree to a document with all its tables, in three batches and two snapshots. The first batch
leaves a marker for every table, the second a blank table for every marker, and the third fills the
cells; nothing else is changed on the way (`nativeTables_complete`).
-/
set_option autoImplicit false

namespace Folio

open Edit Remote

theorem assetPieces_node? (s : Setting) (above : List Kind) (id : Nat) :
    (assetPieces s above id).filterMap Piece.node? = [] := by
  unfold assetPieces
  split <;> rfl

theorem codePieces_node? (s : Setting) (above : List Kind) (id : Nat) (lang : Option String)
    (value : String) : (codePieces s above id lang value).filterMap Piece.node? = [] := by
  unfold codePieces
  split
  · exact assetPieces_node? s above id
  · rfl

theorem tables_preorder (id : Nat) {kind : Kind} (children : List Node) (h : kind.isTable = false) :
    (Node.mk id kind children).preorder.filter (·.kind.isTable) =
      (Node.preorderAll children).filter (·.kind.isTable) := by
  rw [Node.preorder, List.filter_cons_of_neg (by simp [h])]

theorem tables_leaf (id : Nat) {kind : Kind} {children : List Node} (h : kind.isTable = false)
    (hnil : children.isEmpty) :
    (Node.mk id kind children).preorder.filter (·.kind.isTable) = [] := by
  rw [tables_preorder id children h, List.isEmpty_iff.1 hnil]
  rfl

mutual

theorem pieces_node? {s : Setting} (hnative : s.options.tableStrategy = .native)
    (above : List Kind) : (n : Node) → n.isShaped → (n.pieces s above).filterMap Piece.node? =
      n.preorder.filter (·.kind.isTable)
  | .mk id kind children, h => by
    rw [Node.isShaped, Bool.and_eq_true] at h
    have hall := fun above => piecesAll_node? hnative above children h.2
    cases kind with
    | list start =>
      rw [tables_preorder id children rfl, Node.pieces]
      exact itemPieces_node? hnative _ start 0 children h.2 (by simpa [Kind.admits] using h.1)
    | text value | inlineCode value => exact (tables_leaf id rfl h.1).symm
    | image url alt =>
      rw [tables_leaf id rfl h.1, Node.pieces]
      split <;> rfl
    | code lang value =>
      rw [tables_leaf id rfl h.1, Node.pieces]
      exact codePieces_node? s above id lang value
    | table source =>
      -- What is below a table makes no pieces, and has no tables.
      have hbelow : (Node.preorderAll children).filter (·.kind.isTable) = [] := by
        rw [List.filter_eq_nil_iff]
        intro n hn
        simpa using List.all_eq_true.1 h.1 n hn
      rw [Node.preorder, List.filter_cons_of_pos (by rfl), hbelow, Node.pieces, tablePieces,
        hnative]
      rfl
    | heading depth | paragraph =>
      rw [tables_preorder id children rfl, Node.pieces, List.filterMap_append, hall]
      exact List.append_nil _
    | _ => exact (hall _).trans (tables_preorder id children rfl).symm

theorem piecesAll_node? {s : Setting} (hnative : s.options.tableStrategy = .native)
    (above : List Kind) : (ns : List Node) → allShaped ns →
    (piecesAll s above ns).filterMap Piece.node? = (Node.preorderAll ns).filter (·.kind.isTable)
  | [], _ => rfl
  | n :: ns, h => by
    rw [allShaped, Bool.and_eq_true] at h
    rw [piecesAll, List.filterMap_append, Node.preorderAll, List.filter_append,
      pieces_node? hnative above n h.1, piecesAll_node? hnative above ns h.2]

theorem itemPieces_node? {s : Setting} (hnative : s.options.tableStrategy = .native)
    (above : List Kind) (start : Option Nat) (k : Nat) : (ns : List Node) → allShaped ns →
    (∀ n ∈ ns, n.kind = .listItem) →
    (itemPieces s above start k ns).filterMap Piece.node? =
      (Node.preorderAll ns).filter (·.kind.isTable)
  | [], _, _ => rfl
  | .mk id kind children :: ns, h, hitems => by
    rw [allShaped, Bool.and_eq_true, Node.isShaped, Bool.and_eq_true] at h
    rw [List.forall_mem_cons] at hitems
    have hkind : kind.isTable = false := by
      have hitem : kind = .listItem := hitems.1
      rw [hitem]
      rfl
    have hmark :
        (Piece.plain (above ++ [.listItem]) (s.itemMark (start.map (· + k)))).node? = none := rfl
    rw [itemPieces, List.filterMap_cons, hmark, List.filterMap_append,
      piecesAll_node? hnative _ children h.1.2,
      itemPieces_node? hnative above start (k + 1) ns h.2 hitems.2, Node.preorderAll,
      List.filter_append, tables_preorder id children hkind]

end

theorem pieces_tables {s : Setting} (hnative : s.options.tableStrategy = .native) {doc : Document}
    (h : doc.root.isShaped) : (doc.pieces s).filterMap Piece.node? = doc.tables := by
  rw [Document.tables, Document.nodes, Node.descendants_eq_preorder]
  exact pieces_node? hnative [] doc.root h

/-- What is asked of a document for all its tables to be completed. -/
structure Document.Completable (doc : Document) (assets : AssetMap) (options : ExportOptions) :
    Prop where
  native : options.tableStrategy = .native
  shaped : doc.root.isShaped
  some : doc.tables ≠ []
  bound : doc.tables.length ≤ ordinalBound
  cells : ∀ node ∈ doc.tables, 1 ≤ node.tableShape.1 ∧ 1 ≤ node.tableShape.2
  own : OnlyOwnMarkers ⟨doc.fingerprint, assets, options⟩
    (doc.pieces ⟨doc.fingerprint, assets, options⟩)
  pictures : NoPictureBeforeMarker ⟨doc.fingerprint, assets, options⟩
    (doc.pieces ⟨doc.fingerprint, assets, options⟩)

theorem tablesCounted_eq (ps : List Piece) :
    tablesCounted ps = (ps.filterMap Piece.node?).length := by
  induction ps with
  | nil => rfl
  | cons q ps ih =>
    obtain ⟨above, matter⟩ := q
    cases matter <;>
      simp_all [tablesCounted, Piece.tableCount, Piece.node?, List.filterMap_cons, Nat.add_comm]

theorem Document.Completable.marked {doc : Document} {source : String} {assets : AssetMap}
    {options : ExportOptions} (h : (doc.withSource source).Completable assets options) :
    Marked ⟨(doc.withSource source).fingerprint, assets, options⟩
      ((doc.withSource source).pieces ⟨(doc.withSource source).fingerprint, assets, options⟩) where
  key := isKey_fingerprint source
  own := h.own
  pictures := h.pictures
  bound := by
    rw [tablesCounted_eq, pieces_tables h.native h.shaped]
    exact h.bound
  shape := by
    rw [pieces_tables h.native h.shaped]
    exact h.cells

def priceTable : Node :=
  .mk 3 (.table "") [.mk 4 .tableRow [.mk 5 .tableCell [.mk 6 (.text "Tea") []],
    .mk 7 .tableCell [.mk 8 .strong [.mk 9 (.text "2") []]]]]

def priceList (fingerprint : String) : Document :=
  ⟨.mk 0 .document [.mk 1 .paragraph [.mk 2 (.text "Prices") []], priceTable], fingerprint⟩

theorem pieces_priceList (fingerprint : String) {s : Setting}
    (hnative : s.options.tableStrategy = .native) :
    (priceList fingerprint).pieces s =
      [.plain [.document, .paragraph] "Prices", .lineEnd [.document, .paragraph],
        ⟨[.document], .table priceTable⟩, .lineEnd [.document]] := by
  simp [Document.pieces, priceList, priceTable, Node.pieces, piecesAll, tablePieces, hnative]

theorem completable_priceList {fingerprint : String} (hkey : IsKey fingerprint.toList) :
    (priceList fingerprint).Completable .empty .default := by
  have hpieces := pieces_priceList fingerprint
    (s := ⟨(priceList fingerprint).fingerprint, .empty, .default⟩) rfl
  have htables : (priceList fingerprint).tables = [priceTable] := rfl
  refine ⟨rfl, rfl, ?_, ?_, ?_, ?_, ?_⟩
  · simp [htables]
  · rw [htables]
    decide
  · rw [htables]
    decide
  · refine onlyOwnMarkers_of_noBracket hkey ?_
    rw [hpieces]
    simp [Piece.plain, Piece.lineEnd]
  · refine noPictureBeforeMarker_of_noPicture ?_
    rw [hpieces]
    simp [Piece.plain, Piece.lineEnd]

/-- Whatever service it is that keeps the document: the structure batch, the skeletons and the cells
all succeed, every table is placed, and in the end each stands in the place of its marker with the
text of its cells, everything else being as the structure batch has left it. -/
theorem nativeTables_complete (service : Service) (document source : String) (doc : Document)
    (assets : AssetMap) (options : ExportOptions)
    (h : (doc.withSource source).Completable assets options) :
    let doc := doc.withSource source
    let s : Setting := ⟨doc.fingerprint, assets, options⟩
    let draft := doc.compile assets options
    let count := doc.tables.length
    ∃ requests,
      service.run (commitBatch document draft.requests) [] =
        (.ok (), render s (markerView s) 0 (doc.pieces s)) ∧
      service.run (placeSkeletons document doc.fingerprint draft.plans)
          (render s (markerView s) 0 (doc.pieces s)) =
        (.ok ⟨List.range count, [], [], []⟩, render s skeletonView 0 (doc.pieces s)) ∧
      service.run (populateTables document draft.plans (List.range count))
          (render s skeletonView 0 (doc.pieces s)) =
        (.ok ⟨count, requests⟩, render s filledView 0 (doc.pieces s)) := by
  intro doc s draft count
  have htables : (doc.pieces s).filterMap Piece.node? = doc.tables :=
    pieces_tables h.native h.shaped
  have hwrites : Writes s (doc.pieces s) .empty draft := emit_writes s doc.root .empty
  have hplans : draft.plans = plansFrom 0 (doc.pieces s) := hwrites.plans_eq
  -- The draft plans the tables of the pieces, which are those of the tree.
  have hcount : (plansFrom 0 (doc.pieces s)).length = count := by
    rw [plansFrom_length, tablesCounted_eq, htables]
  have hmarked : Marked s (doc.pieces s) := h.marked
  have hone : plansFrom 0 (doc.pieces s) ≠ [] := by
    intro hnil
    rw [hnil] at hcount
    exact h.some (List.eq_nil_of_length_eq_zero hcount.symm)
  have hplacement : Placement.ofPlans (plansFrom 0 (doc.pieces s)) =
      ⟨List.range count, [], [], []⟩ := by
    have hord := sites_ordinals_eq_range s (markerView s) 1 (doc.pieces s)
    rw [Placement.ofPlans, ← hcount, plansFrom_eq_sites s (markerView s) 0 1, List.map_map,
      List.length_map, ← hord]
    rfl
  obtain ⟨requests, hpopulate⟩ :=
    populateTables_run s (fun node hnode => (hmarked.shape node hnode).1) service document
  rw [hplans]
  refine ⟨requests, ?_, ?_, ?_⟩
  · exact service.run_commitBatch document hwrites.carryOut_requests
  · rw [← hplacement]
    exact placeSkeletons_run hmarked hone service document
  · rw [← hcount]
    exact hpopulate

theorem nativeTables_priceList :
    ((priceList "").withSource "Prices").Completable .empty .default ∧
      let doc := (priceList "").withSource "Prices"
      let s : Setting := ⟨doc.fingerprint, .empty, .default⟩
      let plans := (doc.compile .empty .default).plans
      ∃ requests,
        Service.reference.run (placeSkeletons "remote" doc.fingerprint plans)
            (render s (markerView s) 0 (doc.pieces s)) =
          (.ok ⟨[0], [], [], []⟩, render s skeletonView 0 (doc.pieces s)) ∧
        Service.reference.run (populateTables "remote" plans [0])
            (render s skeletonView 0 (doc.pieces s)) =
          (.ok ⟨1, requests⟩, render s filledView 0 (doc.pieces s)) := by
  have h : ((priceList "").withSource "Prices").Completable .empty .default :=
    completable_priceList (isKey_fingerprint "Prices")
  obtain ⟨requests, -, hplace, hpopulate⟩ :=
    nativeTables_complete Service.reference "remote" "Prices" (priceList "") .empty .default h
  exact ⟨h, requests, hplace, hpopulate⟩

end Folio
