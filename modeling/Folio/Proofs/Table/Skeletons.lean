import Mathlib.Data.List.Nodup
import Folio.Proofs.Table.Apart
import Folio.Proofs.Table.Selection
import Folio.Table.Materialize
/-!
The first of the later phases. In a document that was just given its markers all of them are found,
each once, and none in a table; so every table is selected, and replacing the markers from the last
one on leaves a blank table in the place of each (`placeSkeletons_run`).
-/
set_option autoImplicit false

namespace Folio

open Edit Remote

section Select

variable {α : Type} {f : α → Nat} {l : List α}

theorem nodup_of_pairwise_lt (h : l.Pairwise (f · < f ·)) : (l.map f).Nodup :=
  List.pairwise_map.2 (h.imp Nat.ne_of_lt)

theorem filter_eq_singleton (h : l.Pairwise (f · < f ·)) {a : α} (ha : a ∈ l) :
    l.filter (f · == f a) = [a] := by
  classical
  have hnodup := nodup_of_pairwise_lt h
  have hsame : ∀ b ∈ l, (f b == f a) = decide (b = a) := by
    intro b hb
    rw [Bool.eq_iff_iff, beq_iff_eq, decide_eq_true_iff]
    exact ⟨fun heq => List.inj_on_of_nodup_map hnodup hb ha heq, congrArg f⟩
  rw [List.filter_congr hsame, List.filter_eq, List.count_eq_one_of_mem hnodup.of_map ha]
  rfl

end Select

theorem byDescendingStart_eq_reverse {ms : List MarkerMatch}
    (h : ms.Pairwise (·.start < ·.start)) : byDescendingStart ms = ms.reverse := by
  have hsorted : (byDescendingStart ms).Pairwise fun a b => decide (b.start ≤ a.start) :=
    List.pairwise_mergeSort (fun a b c => by simp; omega) (fun a b => by simp; omega) ms
  have hreverse : ms.reverse.Pairwise fun a b => decide (b.start ≤ a.start) := by
    rw [List.pairwise_reverse]
    exact h.imp fun hlt => by simp only [decide_eq_true_eq]; omega
  -- Both are sorted by their starts, and as these are distinct there is only one such list.
  refine List.Perm.eq_of_pairwise (fun a b ha hb hab hba => ?_) hsorted hreverse
    ((List.mergeSort_perm ms _).trans (List.reverse_perm ms).symm)
  rw [byDescendingStart, List.mem_mergeSort] at ha
  simp only [decide_eq_true_eq] at hab hba
  exact List.inj_on_of_nodup_map (nodup_of_pairwise_lt h) ha (List.mem_reverse.1 hb)
    (Nat.le_antisymm hba hab)

section

variable {s : Setting} {view : TableView} {ordinal p : Nat} {ps : List Piece}

theorem sites_pairwise_position (hview : ∀ ordinal look node, view ordinal look node ≠ []) :
    (sites s view ordinal p ps).Pairwise (·.position < ·.position) := by
  induction ps generalizing ordinal p with
  | nil => exact .nil
  | cons q ps ih =>
    rw [sites]
    obtain ⟨above, matter⟩ := q
    cases matter with
    | table node =>
      refine List.pairwise_cons.2 ⟨fun site hsite => ?_, ih⟩
      have hle := le_position s view hsite
      have hlen := List.length_pos_iff.2
        (hview ordinal (Piece.look s ⟨above, .table node⟩) node)
      simp only [Piece.spots] at hle
      dsimp only
      omega
    | _ => exact ih

theorem selectMarkers_sites (s : Setting) {ss : List Site}
    (h : ss.map (·.ordinal) = List.range ss.length) :
    selectMarkers (ss.map (Site.marker s)) (ss.map Site.plan) =
      (ss.map (Site.marker s), .ofPlans (ss.map Site.plan)) := by
  have hmarkers : ∀ site ∈ ss, markersOf (ss.map (Site.marker s)) (ss.map Site.plan).length
      site.plan.ordinal = [site.marker s] := by
    intro site hsite
    have hlt : ∀ site ∈ ss, site.ordinal < ss.length := by
      intro site hsite
      have := List.mem_map_of_mem (f := (·.ordinal)) hsite
      rw [h] at this
      exact List.mem_range.1 this
    have hfilter := filter_eq_singleton (pairwise_ordinal h) hsite
    rw [markersOf, List.filter_map, ← List.map_singleton, ← hfilter]
    congr 1
    refine List.filter_congr fun other hother => ?_
    simp [Site.marker, Site.plan, TablePlan.ofNode, hlt other hother]
  -- The fold goes through the plans one by one, but looks for markers among all of them.
  suffices hfold : ∀ ts : List Site, (∀ site ∈ ts, site ∈ ss) →
      (ts.map Site.plan).foldr
        (fun plan rest => classify plan
          (markersOf (ss.map (Site.marker s)) (ss.map Site.plan).length plan.ordinal) rest)
        ([], .empty) = (ts.map (Site.marker s), .ofPlans (ts.map Site.plan)) from
    hfold ss fun _ hsite => hsite
  intro ts hts
  induction ts with
  | nil => rfl
  | cons t ts ih =>
    rw [List.forall_mem_cons] at hts
    rw [List.map_cons, List.foldr_cons, ih hts.2, hmarkers t hts.1]
    rfl

theorem getElem?_plan {ss : List Site} (h : ss.map (·.ordinal) = List.range ss.length) {site : Site}
    (hsite : site ∈ ss) : (ss.map Site.plan)[site.ordinal]? = some site.plan :=
  (numbered_sites h).getElem?_ordinal (List.mem_map_of_mem hsite)

end

def skeletonView : TableView := fun _ _ node =>
  inLook .plain (blankTable node.tableShape.1 node.tableShape.2)

def Site.skeleton (site : Site) : Snapshot.Table :=
  blankTableAt site.position site.node.tableShape.1 site.node.tableShape.2

section

variable {s : Setting}

theorem markerView_ne_nil (s : Setting) (ordinal : Nat) (look : Look) (node : Node) :
    markerView s ordinal look node ≠ [] := by
  intro hnil
  have hlen := congrArg List.length hnil
  simp only [markerView, inLook_length, glyphsOf_length, List.length_nil,
    Text.units_eq_zero] at hlen
  have hlist := congrArg String.toList hlen
  obtain ⟨cs, hcs⟩ := markerText_eq_cons s.fingerprint.toList (Nat.toDigits 10 ordinal)
  rw [toList_placeholder, hcs] at hlist
  cases hlist

theorem rewrites_replaceMarker {ss : List Site} (h : ss.map (·.ordinal) = List.range ss.length)
    {site : Site} (hsite : site ∈ ss) (hrows : 1 ≤ site.node.tableShape.1)
    (hcolumns : 1 ≤ site.node.tableShape.2) (look : Look) :
    Rewrites site.position (replaceMarker (ss.map Site.plan) (site.marker s))
      (markerView s site.ordinal look site.node) (skeletonView site.ordinal look site.node) := by
  have hplan := getElem?_plan h hsite
  have hdelete := @rewrites_delete site.position _ _
    (markerView_ne_nil s site.ordinal look site.node) rfl
  have hboth := hdelete.trans (rewrites_insertTable site.position hrows hcolumns)
  unfold replaceMarker
  simp only [Site.marker, hplan]
  simpa [MarkerMatch.range, markerView, skeletonView, Site.plan, TablePlan.ofNode] using hboth

theorem rewrites_skeletonRequests {ps : List Piece}
    (hshape : ∀ node ∈ ps.filterMap Piece.node?, 1 ≤ node.tableShape.1 ∧ 1 ≤ node.tableShape.2) :
    Rewrites 1
      (skeletonRequests ((sites s (markerView s) 0 1 ps).map (Site.marker s)) (plansFrom 0 ps))
      (render s (markerView s) 0 ps) (render s skeletonView 0 ps) := by
  have hord := sites_ordinals_eq_range s (markerView s) 1 ps
  have hstarts :
      ((sites s (markerView s) 0 1 ps).map (Site.marker s)).Pairwise (·.start < ·.start) :=
    List.pairwise_map.2 (sites_pairwise_position (markerView_ne_nil s))
  rw [skeletonRequests, byDescendingStart_eq_reverse hstarts, ← List.map_reverse, List.flatMap_map,
    plansFrom_eq_sites s (markerView s) 0 1]
  refine rewrites_sites fun site hsite look => ?_
  obtain ⟨hrows, hcolumns⟩ := hshape _ (node_mem_of_mem_sites s _ hsite)
  exact rewrites_replaceMarker hord hsite hrows hcolumns look

theorem tables_render {view : TableView} {grid : Nat → Node → List Snapshot.Table}
    (hview : ∀ ordinal look node p rest, (read p (glyphs (view ordinal look node) ++ rest)).tables =
      grid p node ++ (read (p + (view ordinal look node).length) rest).tables)
    (ordinal p : Nat) (ps : List Piece) :
    (read p (glyphs (render s view ordinal ps))).tables =
      (sites s view ordinal p ps).flatMap fun site => grid site.position site.node := by
  induction ps generalizing ordinal p with
  | nil => rfl
  | cons q ps ih =>
    rw [render, glyphs_append, sites, List.flatMap_append, ← ih]
    obtain ⟨above, matter⟩ := q
    cases matter with
    | table node => simpa [Piece.node?, Piece.spots] using hview ordinal _ node p _
    | text tone value =>
      have hplain := tables_plain (isPlain_glyphsOf value) p
        (glyphs (render s view (ordinal + 0) ps))
      simpa [Piece.node?, Piece.spots, glyphs_inLook, Piece.tableCount] using hplain
    | picture uri =>
      have himage : ∀ g ∈ [Glyph.image uri s.imageSize], g.isPlain := fun g hg => by
        rw [List.mem_singleton.1 hg]
        rfl
      have hplain := tables_plain himage p (glyphs (render s view (ordinal + 0) ps))
      simpa [Piece.node?, Piece.spots, glyphs_inLook, Piece.tableCount] using hplain

theorem tables_skeletons (ordinal p : Nat) (ps : List Piece) :
    (read p (glyphs (render s skeletonView ordinal ps))).tables =
      (sites s skeletonView ordinal p ps).map Site.skeleton := by
  have h := @tables_render s skeletonView
    (fun p node => [blankTableAt p node.tableShape.1 node.tableShape.2])
    (fun ordinal look node p rest => by
      have hblank := tables_blankTable p node.tableShape.1 node.tableShape.2 rest
      simpa [skeletonView, glyphs_inLook] using hblank) ordinal p ps
  rw [h, List.map_eq_flatMap]
  rfl

end

theorem Remote.Service.run_commitBatch (service : Service) (document : String)
    {requests : List Request} {c c' : Content} (h : carryOut requests c = some c') :
    service.run (commitBatch document requests) c = (.ok (), c') := by
  unfold commitBatch
  split
  · rename_i hempty
    rw [List.isEmpty_iff.1 hempty] at h
    cases h
    rfl
  · exact service.run_commit_bind document _ h

/-- What is asked of the text of a document with tables. -/
structure Marked (s : Setting) (ps : List Piece) : Prop where
  key : IsKey s.fingerprint.toList
  own : OnlyOwnMarkers s ps
  pictures : NoPictureBeforeMarker s ps
  bound : tablesCounted ps ≤ ordinalBound
  shape : ∀ node ∈ ps.filterMap Piece.node?, 1 ≤ node.tableShape.1 ∧ 1 ≤ node.tableShape.2

theorem markers_fetch {s : Setting} {ps : List Piece} (h : Marked s ps) (service : Service)
    (document : String) :
    (service.fetch document (render s (markerView s) 0 ps)).markers s.fingerprint =
      (sites s (markerView s) 0 1 ps).map (Site.marker s) := by
  have hread := read_markers h.key (flat_render s 0 ps) (unmixed_render h.own h.pictures) 1
  rw [Snapshot.markers_eq_outline, service.exact, reading, hread.2]
  exact @hits_render s h.key [] ps h.own h.bound 1

theorem placeSkeletons_run {s : Setting} {ps : List Piece} (h : Marked s ps)
    (hone : plansFrom 0 ps ≠ []) (service : Service) (document : String) :
    service.run (placeSkeletons document s.fingerprint (plansFrom 0 ps))
        (render s (markerView s) 0 ps) =
      (.ok (.ofPlans (plansFrom 0 ps)), render s skeletonView 0 ps) := by
  have hmarkers := markers_fetch h service document
  have htables := (flat_render s 0 ps).tables service document
  have hplans := plansFrom_eq_sites s (markerView s) 0 1 ps
  have hselect := selectMarkers_sites s (sites_ordinals_eq_range s (markerView s) 1 ps)
  rw [← hplans] at hselect
  have hfound : ((sites s (markerView s) 0 1 ps).map (Site.marker s)).isEmpty = false := by
    rw [hplans] at hone
    simpa using hone
  have hcarry := (@rewrites_skeletonRequests s ps h.shape).carryOut_eq
  refine (service.run_fetch_bind document _ _).trans ?_
  simp only [hmarkers, htables, hfound, hselect, List.length_nil, Bool.false_and,
    Bool.false_eq_true, if_false, Nat.lt_irrefl]
  rw [service.run_bind, service.run_commitBatch document hcarry]
  rfl

end Folio
