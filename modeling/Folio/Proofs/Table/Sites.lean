import Folio.Proofs.Draft.Meaning
/-!
Where the tables among some pieces stand, under any view of tables, and batches that work on them
one by one, the last one first. Whatever each such change does to its own table, together they do it
to the document (`rewrites_sites`): no change moves a table that is still to be worked on.
-/
set_option autoImplicit false

namespace Folio

open Edit Remote

structure Site where
  ordinal : Nat
  position : Nat
  node : Node

namespace Site

def plan (site : Site) : TablePlan := .ofNode site.ordinal site.node

end Site

def Piece.node? (p : Piece) : Option Node :=
  match p.matter with
  | .table node => some node
  | _ => none

def sites (s : Setting) (view : TableView) (ordinal p : Nat) : List Piece → List Site
  | [] => []
  | q :: ps =>
    q.node?.toList.map (⟨ordinal, p, ·⟩) ++
      sites s view (ordinal + q.tableCount) (p + (q.spots s view ordinal).length) ps

section

variable (s : Setting) (view : TableView)

theorem plansFrom_eq_sites (ordinal p : Nat) (ps : List Piece) :
    plansFrom ordinal ps = (sites s view ordinal p ps).map Site.plan := by
  induction ps generalizing ordinal p with
  | nil => rfl
  | cons q ps ih =>
    obtain ⟨above, matter⟩ := q
    cases matter with
    | table node => simp [plansFrom, sites, Piece.node?, Piece.tableCount, Site.plan, ← ih]
    | _ => simp [plansFrom, sites, Piece.node?, Piece.tableCount, ← ih]

theorem sites_ordinals (ordinal p : Nat) (ps : List Piece) :
    (sites s view ordinal p ps).map (·.ordinal) = List.range' ordinal (tablesCounted ps) := by
  induction ps generalizing ordinal p with
  | nil => rfl
  | cons q ps ih =>
    have hcount : tablesCounted (q :: ps) = q.tableCount + tablesCounted ps := rfl
    obtain ⟨above, matter⟩ := q
    cases matter with
    | table node =>
      simp [sites, Piece.node?, Piece.tableCount, ih, hcount, Nat.add_comm 1, List.range'_succ]
    | _ => simp [sites, Piece.node?, Piece.tableCount, ih, hcount]

theorem sites_ordinals_eq_range (p : Nat) (ps : List Piece) :
    (sites s view 0 p ps).map (·.ordinal) = List.range (sites s view 0 p ps).length := by
  have h := sites_ordinals s view 0 p ps
  have hlen := congrArg List.length h
  rw [List.length_map, List.length_range'] at hlen
  rw [h, hlen, List.range_eq_range']

theorem sites_nodes (ordinal p : Nat) (ps : List Piece) :
    (sites s view ordinal p ps).map (·.node) = ps.filterMap Piece.node? := by
  induction ps generalizing ordinal p with
  | nil => rfl
  | cons q ps ih =>
    rw [sites, List.map_append, ih, List.filterMap_cons]
    cases q.node? <;> simp

theorem node_mem_of_mem_sites {ordinal p : Nat} {ps : List Piece} {site : Site}
    (h : site ∈ sites s view ordinal p ps) : site.node ∈ ps.filterMap Piece.node? := by
  rw [← sites_nodes s view ordinal p ps]
  exact List.mem_map_of_mem h

theorem le_position {ordinal p : Nat} {ps : List Piece} {site : Site}
    (h : site ∈ sites s view ordinal p ps) : p ≤ site.position := by
  induction ps generalizing ordinal p with
  | nil => simp [sites] at h
  | cons q ps ih =>
    rw [sites, List.mem_append] at h
    rcases h with h | h
    · obtain ⟨node, -, rfl⟩ := List.mem_map.1 h
      exact Nat.le_refl p
    · have := ih h
      omega

theorem pairwise_ordinal {ss : List Site} (h : ss.map (·.ordinal) = List.range ss.length) :
    ss.Pairwise (·.ordinal < ·.ordinal) := by
  have hrange := List.pairwise_lt_range (n := ss.length)
  rw [← h] at hrange
  exact List.pairwise_map.1 hrange

end

/-- Changes made at all sites, the last one first, turn one view of the tables into another. -/
theorem rewrites_sites {s : Setting} {old new : TableView} {change : Site → List Request}
    {ordinal p : Nat} {ps : List Piece}
    (h : ∀ site ∈ sites s old ordinal p ps, ∀ look, Rewrites site.position (change site)
      (old site.ordinal look site.node) (new site.ordinal look site.node)) :
    Rewrites p ((sites s old ordinal p ps).reverse.flatMap change) (render s old ordinal ps)
      (render s new ordinal ps) := by
  induction ps generalizing ordinal p with
  | nil => exact .nil p []
  | cons q ps ih =>
    simp only [sites, List.forall_mem_append] at h
    have hrest := ih h.2
    have hfront : Rewrites p ((q.node?.toList.map (⟨ordinal, p, ·⟩)).reverse.flatMap change)
        (q.spots s old ordinal) (q.spots s new ordinal) := by
      obtain ⟨above, matter⟩ := q
      cases matter with
      | table node =>
        have hsite := h.1 ⟨ordinal, p, node⟩ (by simp [Piece.node?])
        simpa [Piece.node?, Piece.spots] using hsite _
      | _ => exact .nil p _
    simpa only [sites, List.reverse_append, List.flatMap_append, render] using
      hfront.backward hrest rfl

end Folio
