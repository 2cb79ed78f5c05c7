import Folio.Proofs.Table.Pairing
import Folio.Proofs.Table.Retry
/-!
Which tables are in the document once markers have given way to them. They stand in the order of the
markers; placed tables are listed, and paired, in the order of their ordinals. Every plan gets the
table in the place of its own marker if and only if the two orders agree (`placed_seated`).
-/
set_option autoImplicit false

namespace Folio

open Edit Remote

/-- A table of a snapshot, in the place of a marker: an empty one of the shape planned for the
ordinal, where the marker began, but for what the markers before it gave up and their tables take.
-/
def InPlaceOf (plans : List TablePlan) (selected : List MarkerMatch) (m : MarkerMatch)
    (table : Snapshot.Table) : Prop :=
  ∃ position, position + removedBefore selected m = m.start + addedBefore plans selected m ∧
    table.outline = skeletonAt plans m position

/-- Tables, and what filling pairs them with, after the markers selected have been replaced. -/
structure Seated (plans : List TablePlan) (selected : List MarkerMatch) (p : Placement)
    (s : Snapshot) : Prop where
  ordinals : selected.map (·.ordinal) = p.placed
  tables : List.Forall₂ (InPlaceOf plans selected) (inDocumentOrder selected) s.tables
  tables_iff : List.Forall₂ (InPlaceOf plans selected) selected s.tables ↔
    selected.Pairwise (·.start < ·.start)
  pairs : ∀ pairs, pairTables s plans p.placed = .ok pairs →
    pairs.map (·.1.ordinal) = p.placed ∧ pairs.map (·.2) = s.tables
  pairs_iff : (∃ pairs, pairTables s plans p.placed = .ok pairs ∧
      List.Forall₂ (fun m pair => pair.1.ordinal = m.ordinal ∧ InPlaceOf plans selected m pair.2)
        selected pairs) ↔
    selected.Pairwise (·.start < ·.start)

section

variable {plans : List TablePlan} {selected : List MarkerMatch} {m m' : MarkerMatch}
  {table : Snapshot.Table} {c c' : Content} {document : String}

theorem blankTableAt_injective {p p' rows columns rows' columns' : Nat} (hrows : 1 ≤ rows)
    (h : blankTableAt p rows columns = blankTableAt p' rows' columns') : p = p' := by
  have hstarts := congrArg (fun t => t.tableRows.map Snapshot.Row.start) h
  obtain ⟨n, rfl⟩ : ∃ n, rows = n + 1 := ⟨rows - 1, by omega⟩
  cases rows' with
  | zero => cases hstarts
  | succ n' => exact Nat.succ.inj (List.cons.inj hstarts).1

theorem inPlaceOf_perm {ms : List MarkerMatch} (h : ms.Perm selected) :
    InPlaceOf plans ms m table ↔ InPlaceOf plans selected m table := by
  unfold InPlaceOf
  rw [removedBefore_perm h, addedBefore_perm h]

/-- A table is in the place of one marker only. -/
theorem InPlaceOf.unique (hreplaceable : Replaceable plans selected c) (hm : m ∈ selected)
    (hm' : m' ∈ selected) (hrows : 1 ≤ (plannedShape plans m.ordinal).1)
    (h : InPlaceOf plans selected m table) (h' : InPlaceOf plans selected m' table) : m = m' := by
  obtain ⟨x, hx, htable⟩ := h
  obtain ⟨x', hx', htable'⟩ := h'
  obtain rfl : x = x' := blankTableAt_injective hrows (htable.symm.trans htable')
  have hperm := inDocumentOrder_perm selected
  rw [← removedBefore_perm hperm, ← addedBefore_perm hperm] at hx hx'
  exact seat_injective hreplaceable.pairwise_inDocumentOrder
    (fun m hm => ⟨(hreplaceable.inside m hm).1, (hreplaceable.inside m hm).2.1⟩)
    (hperm.mem_iff.2 hm) (hperm.mem_iff.2 hm') hx hx'

theorem forall₂_of_zipWith {α β γ δ : Type} {R : α → β → Prop} {f : α → β → δ} {g : γ → δ}
    {as : List α} {bs : List β} {cs : List γ} (h : List.Forall₂ R as bs)
    (hcs : cs.map g = List.zipWith f as bs) :
    List.Forall₂ (fun a c => ∃ b, R a b ∧ g c = f a b) as cs := by
  induction h generalizing cs with
  | nil =>
    rw [List.map_eq_nil_iff.1 hcs]
    exact .nil
  | cons hab _ ih =>
    obtain ⟨c, cs', rfl, hc, hrest⟩ := List.map_eq_cons_iff.1 hcs
    exact .cons ⟨_, hab, hc⟩ (ih hrest)

theorem tables_inDocumentOrder (service : Service) (hplans : Numbered plans)
    (hplain : ∀ g ∈ glyphs c, g.isPlain) (hreplaceable : Replaceable plans selected c)
    (hcarry : carryOut (skeletonRequests selected plans) c = some c') :
    List.Forall₂ (InPlaceOf plans selected) (inDocumentOrder selected)
      (service.fetch document c').tables := by
  obtain rfl := eq_of_carryOut_skeletonRequests hplans hreplaceable hcarry
  have htables := Snapshot.tables_outline (service.fetch document (replaceAll
    ((inDocumentOrder selected).map (skeletonOf TableService.remote.blank plans)) 1 c))
  have hseated := @tables_replaceAll plans (inDocumentOrder selected) 1 c hplain
    hreplaceable.pairwise_inDocumentOrder hreplaceable.inside 1
  rw [service.exact, reading] at htables
  have hseats := @forall₂_seats plans (inDocumentOrder selected) 1 1
    hreplaceable.pairwise_inDocumentOrder
    fun m hm => ⟨(hreplaceable.inside m hm).1, (hreplaceable.inside m hm).2.1⟩
  refine (forall₂_of_zipWith hseats (htables.trans hseated)).imp fun m table h => ?_
  obtain ⟨x, hx, htable⟩ := h
  exact (inPlaceOf_perm (inDocumentOrder_perm selected)).1 ⟨x, by omega, htable⟩

/-- What stands in the order of the markers stands in the order in which these are listed, if and
only if they are listed as they stand. -/
theorem forall₂_inPlaceOf_iff (hreplaceable : Replaceable plans selected c)
    (hrows : ∀ m ∈ selected, 1 ≤ (plannedShape plans m.ordinal).1) {tables : List Snapshot.Table}
    (h : List.Forall₂ (InPlaceOf plans selected) (inDocumentOrder selected) tables) :
    List.Forall₂ (InPlaceOf plans selected) selected tables ↔
      selected.Pairwise (·.start < ·.start) := by
  constructor
  · intro hown
    have hmem : ∀ m ∈ inDocumentOrder selected, m ∈ selected := fun m hm =>
      (inDocumentOrder_perm selected).mem_iff.1 hm
    have hunique : Relator.LeftUnique fun m table =>
        m ∈ selected ∧ InPlaceOf plans selected m table := fun m table m' hm hm' =>
      InPlaceOf.unique hreplaceable hm.1 hm'.1 (hrows m hm.1) hm.2 hm'.2
    -- No table is in the place of two markers, so both lists of markers are one.
    have hsame : inDocumentOrder selected = selected :=
      List.left_unique_forall₂' hunique ((List.forall₂_and_left _ _).2 ⟨hmem, h⟩)
        ((List.forall₂_and_left _ _).2 ⟨fun _ hm => hm, hown⟩)
    have horder := hreplaceable.pairwise_inDocumentOrder
    rw [hsame] at horder
    refine horder.imp_of_mem fun ha _ hab => ?_
    exact Nat.lt_of_lt_of_le (hreplaceable.range _ ha).2.1 hab
  · intro hstarts
    rwa [inDocumentOrder, byDescendingStart_eq_reverse hstarts, List.reverse_reverse] at h

theorem checkShape_of_inPlaceOf (hplans : Numbered plans) {plan : TablePlan} (hplan : plan ∈ plans)
    (hord : plan.ordinal = m.ordinal) (hrows : 1 ≤ (plannedShape plans m.ordinal).1)
    (h : InPlaceOf plans selected m table) : checkShape plan table = .ok () := by
  obtain ⟨position, -, htable⟩ := h
  have hplanned := hplans.plannedShape_eq (hplans.getElem?_ordinal hplan)
  rw [hord] at hplanned
  rw [skeletonAt, hplanned] at htable
  rw [hplanned] at hrows
  exact checkShape_of_outline hrows htable

theorem forall₂_checkShape (hplans : Numbered plans) {us : List TablePlan} {ms : List MarkerMatch}
    {tables : List Snapshot.Table} (hus : ∀ plan ∈ us, plan ∈ plans)
    (hord : ms.map (·.ordinal) = us.map (·.ordinal))
    (hrows : ∀ m ∈ ms, 1 ≤ (plannedShape plans m.ordinal).1)
    (h : List.Forall₂ (InPlaceOf plans selected) ms tables) :
    List.Forall₂ (fun plan table => checkShape plan table = .ok ()) us tables ∧
      List.Forall₂ (fun m pair => pair.1.ordinal = m.ordinal ∧ InPlaceOf plans selected m pair.2) ms
        (us.zip tables) := by
  induction h generalizing us with
  | nil =>
    rw [List.map_eq_nil_iff.1 hord.symm]
    exact ⟨.nil, .nil⟩
  | @cons m table ms tables hm _ ih =>
    obtain ⟨u, us, rfl, hu, hrest⟩ := List.map_eq_cons_iff.1 hord.symm
    rw [List.forall_mem_cons] at hus hrows
    obtain ⟨hchecks, hpairs⟩ := ih hus.2 hrest.symm hrows.2
    exact ⟨.cons (checkShape_of_inPlaceOf hplans hus.1 hu hrows.1 hm) hchecks,
      .cons ⟨hu, hm⟩ hpairs⟩

theorem seated_of_selection (hplans : Numbered plans) {found : List MarkerMatch} {p : Placement}
    (hselection : Selection found plans.length plans selected p)
    (hreplaceable : Replaceable plans selected c)
    (hrows : ∀ m ∈ selected, 1 ≤ (plannedShape plans m.ordinal).1) {s : Snapshot}
    (htables : List.Forall₂ (InPlaceOf plans selected) (inDocumentOrder selected) s.tables) :
    Seated plans selected p s := by
  have htables_iff := forall₂_inPlaceOf_iff hreplaceable hrows htables
  obtain ⟨us, hus, hplaced⟩ := List.sublist_map_iff.1 hselection.sublist
  have hpairs : ∀ pairs, pairTables s plans p.placed = .ok pairs → Paired us s pairs :=
    fun pairs h => pairTables_paired hplans hus (hplaced ▸ h)
  refine ⟨hselection.placed, htables, htables_iff, fun pairs h => ⟨?_, (hpairs pairs h).tables⟩,
    ⟨fun ⟨pairs, h, hown⟩ => htables_iff.1 ?_, fun hstarts => ?_⟩⟩
  · rw [hplaced, ← (hpairs pairs h).plans, List.map_map]
    rfl
  · rw [← (hpairs pairs h).tables, List.forall₂_map_right_iff]
    exact hown.imp fun _ _ h => h.2
  · obtain ⟨hchecks, hown⟩ := forall₂_checkShape hplans (fun _ hu => hus.mem hu)
      (hselection.placed.trans hplaced) hrows (htables_iff.2 hstarts)
    rw [hplaced]
    exact ⟨us.zip s.tables, pairTables_eq_zip hplans hus hchecks, hown⟩

/-- The markers that are selected in a document without tables give way to tables if and only if
each of these is to have rows and columns, and then the tables stand in the order of the markers.
They stand in the order of the placed ordinals, and every plan is paired with the table in the place
of its own marker, exactly if the selected markers stood in the order of their ordinals. -/
theorem placed_seated (service : Service) (document fingerprint : String)
    (hplans : Numbered plans) (hflat : Flat (glyphs c)) {p : Placement}
    (hselect : selectMarkers ((service.fetch document c).markers fingerprint) plans =
      (selected, p)) :
    ((∃ c', carryOut (skeletonRequests selected plans) c = some c') ↔
      ∀ m ∈ selected, 1 ≤ (plannedShape plans m.ordinal).1 ∧
        1 ≤ (plannedShape plans m.ordinal).2) ∧
    ∀ c', carryOut (skeletonRequests selected plans) c = some c' →
      Seated plans selected p (service.fetch document c') := by
  have hselection :=
    selectMarkers_selection ((service.fetch document c).markers fingerprint) plans
  rw [hselect] at hselection
  have hreplaceable : Replaceable plans selected c :=
    hselection.replaceable hplans (service.markers_apart document fingerprint hflat)
  refine ⟨⟨fun ⟨c', h⟩ => takes_of_carryOut hplans hreplaceable.ordinal h, fun htakes => ?_⟩,
    fun c' h => ?_⟩
  · rw [carryOut_eq_foldlM]
    exact ⟨_, hreplaceable.foldlM_inOrder .remote hplans htakes⟩
  · have htakes := takes_of_carryOut hplans hreplaceable.ordinal h
    exact seated_of_selection hplans hselection hreplaceable (fun m hm => (htakes m hm).1)
      (tables_inDocumentOrder service hplans hflat.isPlain hreplaceable h)

end

theorem placed_seated_inOrder :
    ∃ selected c',
      selectMarkers ((Service.reference.fetch "document" (twoTables.markerLines [0, 1])).markers
          twoTables.fingerprint) (twoTables.compile .empty .default).plans =
        (selected, ⟨[0, 1], [], [], []⟩) ∧
      carryOut (skeletonRequests selected (twoTables.compile .empty .default).plans)
        (twoTables.markerLines [0, 1]) = some c' ∧
      List.Forall₂ (InPlaceOf (twoTables.compile .empty .default).plans selected) selected
        (Service.reference.fetch "document" c').tables := by
  have hplans := numbered_compile twoTables .empty .default
  have hselect : selectMarkers ((Service.reference.fetch "document"
        (twoTables.markerLines [0, 1])).markers twoTables.fingerprint)
        (twoTables.compile .empty .default).plans =
      ([⟨0, 1, 31, 0⟩, ⟨1, 32, 62, 0⟩], ⟨[0, 1], [], [], []⟩) := by decide +kernel
  have hshapes : plannedShape (twoTables.compile .empty .default).plans 0 = (1, 1) ∧
      plannedShape (twoTables.compile .empty .default).plans 1 = (1, 1) := by decide +kernel
  obtain ⟨htakes, hseated⟩ := placed_seated Service.reference "document" twoTables.fingerprint
    hplans (twoTables.flat_markerLines [0, 1]) hselect
  obtain ⟨c', hc'⟩ := htakes.2 (by simp [hshapes.1, hshapes.2])
  exact ⟨_, c', hselect, hc', (hseated c' hc').tables_iff.2 (by decide)⟩

def unlikeTables : Document := .ofMarkdown "| A |\n|---|\n\n| B | C |\n|---|---|"

def Document.fillTables (doc : Document) (placed : List Nat) :
    Process (Except TableError Population) :=
  populateTables "document" (doc.compile .empty .default).plans placed

def twoRows (columns columns' : Nat) : Content :=
  inLook .plain (blankTable 1 columns ++ glyphsOf "\n" ++ blankTable 1 columns' ++ glyphsOf "\n")

def tableTexts (c : Content) : List (List (List String)) :=
  (Service.reference.fetch "document" c).tables.map fun table => table.tableRows.map fun row =>
    row.cells.map fun cell => String.join (cell.content.map (·.text))

theorem byDescendingStart_eq_self {ms : List MarkerMatch}
    (h : ms.Pairwise fun a b => b.start ≤ a.start) : byDescendingStart ms = ms :=
  List.mergeSort_of_pairwise (h.imp fun hle => decide_eq_true hle)

theorem run_placeTables {doc : Document} {ordinals : List Nat} {selected : List MarkerMatch}
    {p : Placement} {c' : Content}
    (hselect : selectMarkers ((Service.reference.fetch "document"
      (doc.markerLines ordinals)).markers doc.fingerprint) (doc.compile .empty .default).plans =
        (selected, p))
    (hstarts : selected.Pairwise fun a b => b.start ≤ a.start)
    (hcarry : carryOut (selected.flatMap (replaceMarker (doc.compile .empty .default).plans))
      (doc.markerLines ordinals) = some c') :
    Service.reference.run doc.placeTables (doc.markerLines ordinals) = (.ok p, c') := by
  refine (placeSkeletons_run_flat_iff Service.reference (doc.flat_markerLines ordinals)).2 ?_
  rw [hselect, skeletonRequests, byDescendingStart_eq_self hstarts]
  exact ⟨rfl, hcarry⟩

/-- The second marker stands before the first one, in a document without tables. If the tables have
one shape, each is filled with the content of the other; if not, they cannot be filled. -/
theorem placed_swapped :
    (tableTexts (twoTables.markerLines [1, 0]) = [] ∧
      Service.reference.run twoTables.placeTables (twoTables.markerLines [1, 0]) =
        (.ok ⟨[0, 1], [], [], []⟩, twoRows 1 1) ∧
      tableTexts (Service.reference.run (twoTables.fillTables [0, 1]) (twoRows 1 1)).2 =
        [[["A\n"]], [["B\n"]]]) ∧
    tableTexts (unlikeTables.markerLines [1, 0]) = [] ∧
      Service.reference.run unlikeTables.placeTables (unlikeTables.markerLines [1, 0]) =
        (.ok ⟨[0, 1], [], [], []⟩, twoRows 2 1) ∧
      (Service.reference.run (unlikeTables.fillTables [0, 1]) (twoRows 2 1)).1 =
        .error (.shapeMismatch 0 1 1 1 2) := by
  have hselect : selectMarkers ((Service.reference.fetch "document"
        (twoTables.markerLines [1, 0])).markers twoTables.fingerprint)
        (twoTables.compile .empty .default).plans =
      ([⟨0, 32, 62, 0⟩, ⟨1, 1, 31, 0⟩], ⟨[0, 1], [], [], []⟩) := by decide +kernel
  have hunlike : selectMarkers ((Service.reference.fetch "document"
        (unlikeTables.markerLines [1, 0])).markers unlikeTables.fingerprint)
        (unlikeTables.compile .empty .default).plans =
      ([⟨0, 32, 62, 0⟩, ⟨1, 1, 31, 0⟩], ⟨[0, 1], [], [], []⟩) := by decide +kernel
  refine ⟨⟨?_, run_placeTables hselect ?_ ?_, ?_⟩, ?_, run_placeTables hunlike ?_ ?_, ?_⟩
  all_goals decide +kernel

end Folio
