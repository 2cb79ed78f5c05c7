import Folio.Proofs.Table.Sites
import Folio.Table.Placement

set_option autoImplicit false

namespace Folio

open Edit

/-- As in every draft, the ordinal of a plan is its place among the plans. -/
def Numbered (plans : List TablePlan) : Prop :=
  plans.map (·.ordinal) = List.range plans.length

theorem numbered_sites {ss : List Site} (h : ss.map (·.ordinal) = List.range ss.length) :
    Numbered (ss.map Site.plan) := by
  rw [Numbered, List.map_map, List.length_map]
  exact h

theorem numbered_plansFrom (s : Setting) (ps : List Piece) : Numbered (plansFrom 0 ps) := by
  rw [plansFrom_eq_sites s (markerView s) 0 1]
  exact numbered_sites (sites_ordinals_eq_range s (markerView s) 1 ps)

theorem numbered_compile (doc : Document) (assets : AssetMap) (options : ExportOptions) :
    Numbered (doc.compile assets options).plans := by
  have h : Writes ⟨doc.fingerprint, assets, options⟩ _ .empty (doc.compile assets options) :=
    emit_writes ⟨doc.fingerprint, assets, options⟩ doc.root .empty
  rw [h.plans_eq]
  exact numbered_plansFrom ⟨doc.fingerprint, assets, options⟩ _

section

variable {plans : List TablePlan} {plan : TablePlan} {i : Nat}

theorem Numbered.ordinal_getElem (h : Numbered plans) (hi : i < plans.length) :
    plans[i].ordinal = i := by
  have hord := congrArg (·[i]?) h
  simpa [hi] using hord

theorem Numbered.getElem? (h : Numbered plans) (hi : i < plans.length) :
    ∃ plan, plans[i]? = some plan ∧ plan.ordinal = i :=
  ⟨plans[i], List.getElem?_eq_getElem hi, h.ordinal_getElem hi⟩

theorem Numbered.getElem?_ordinal (h : Numbered plans) (hplan : plan ∈ plans) :
    plans[plan.ordinal]? = some plan := by
  obtain ⟨i, hi, rfl⟩ := List.getElem_of_mem hplan
  rw [h.ordinal_getElem hi]
  exact List.getElem?_eq_getElem hi

theorem Numbered.find? (h : Numbered plans) (hplan : plan ∈ plans) :
    plans.find? (·.ordinal == plan.ordinal) = some plan := by
  obtain ⟨i, hi, rfl⟩ := List.getElem_of_mem hplan
  refine List.find?_eq_some_iff_getElem.2 ⟨by simp, i, hi, rfl, fun j hj => ?_⟩
  rw [h.ordinal_getElem hi, h.ordinal_getElem (Nat.lt_trans hj hi)]
  simp
  omega

theorem Numbered.pairwise_lt (h : Numbered plans) : plans.Pairwise (·.ordinal < ·.ordinal) := by
  have hrange := List.pairwise_lt_range (n := plans.length)
  rw [← h] at hrange
  exact List.pairwise_map.1 hrange

end

/-- Every planned table has one of four fates, and those that are placed stay in order. -/
structure Placement.Divides (p : Placement) (plans : List TablePlan) : Prop where
  sublist : p.placed.Sublist (plans.map (·.ordinal))
  partition : p.placed.length + p.missing.length + p.nested.length + p.ambiguous.length =
    plans.length

theorem Placement.divides_ofPlans (plans : List TablePlan) :
    (Placement.ofPlans plans).Divides plans :=
  ⟨.refl _, by simp [ofPlans, empty]⟩

theorem Placement.Divides.isComplete_iff {p : Placement} {plans : List TablePlan}
    (h : p.Divides plans) : p.isComplete ↔ p.placed.length = plans.length := by
  have hcount := h.partition
  simp only [Placement.isComplete, Bool.and_eq_true, List.isEmpty_iff, ← List.length_eq_zero_iff]
  omega

theorem Placement.Divides.placed_eq {p : Placement} {plans : List TablePlan}
    (h : p.Divides plans) (hp : p.isComplete) : p.placed = plans.map (·.ordinal) :=
  h.sublist.eq_of_length (by rw [h.isComplete_iff.1 hp, List.length_map])

theorem Placement.Divides.ofPlans_eq {p : Placement} {plans : List TablePlan}
    (h : p.Divides plans) (hp : p.isComplete) : .ofPlans plans = p := by
  have hplaced := h.placed_eq hp
  obtain ⟨placed, missing, nested, ambiguous⟩ := p
  simp only [Placement.isComplete, Bool.and_eq_true, List.isEmpty_iff] at hp
  obtain ⟨⟨rfl, rfl⟩, rfl⟩ := hp
  obtain rfl : placed = _ := hplaced
  rfl

/-- What has been selected among the markers found, and the placement that goes with it. -/
structure Selection (found : List MarkerMatch) (count : Nat) (plans : List TablePlan)
    (selected : List MarkerMatch) (p : Placement) : Prop extends p.Divides plans where
  placed : selected.map (·.ordinal) = p.placed
  marker : ∀ m ∈ selected, m ∈ found ∧ m.ordinal < count ∧ m.depth = 0

section

variable {found selected : List MarkerMatch} {count : Nat} {plan : TablePlan}
  {plans : List TablePlan} {p : Placement}

theorem mem_markersOf {m : MarkerMatch} {ordinal : Nat} (h : m ∈ markersOf found count ordinal) :
    m ∈ found ∧ m.ordinal < count ∧ m.ordinal = ordinal := by
  simpa [markersOf] using h

theorem Selection.classify (h : Selection found count plans selected p) :
    Selection found count (plan :: plans)
      (classify plan (markersOf found count plan.ordinal) (selected, p)).1
      (classify plan (markersOf found count plan.ordinal) (selected, p)).2 := by
  have hskip : p.placed.Sublist ((plan :: plans).map (·.ordinal)) := h.sublist.cons plan.ordinal
  have hcount := h.partition
  rcases hm : markersOf found count plan.ordinal with _ | ⟨m, _ | ⟨m', ms⟩⟩
  · exact ⟨⟨hskip, by simp only [Folio.classify, List.length_cons]; omega⟩, h.placed, h.marker⟩
  · obtain ⟨hfound, hlt, hord⟩ := mem_markersOf (hm ▸ List.mem_singleton_self m)
    by_cases hdepth : m.depth = 0
    · simp only [Folio.classify, hdepth, BEq.rfl, if_true]
      refine ⟨⟨h.sublist.cons_cons plan.ordinal, ?_⟩, ?_,
        List.forall_mem_cons.2 ⟨⟨hfound, hlt, hdepth⟩, h.marker⟩⟩
      · simp only [List.length_cons]
        omega
      · rw [List.map_cons, h.placed, hord]
    · simp only [Folio.classify, beq_iff_eq, hdepth, if_false]
      exact ⟨⟨hskip, by simp only [List.length_cons]; omega⟩, h.placed, h.marker⟩
  · exact ⟨⟨hskip, by simp only [Folio.classify, List.length_cons]; omega⟩, h.placed, h.marker⟩

theorem selectMarkers_selection (found : List MarkerMatch) (plans : List TablePlan) :
    Selection found plans.length plans (selectMarkers found plans).1
      (selectMarkers found plans).2 := by
  unfold selectMarkers
  generalize plans.length = count
  induction plans with
  | nil => exact ⟨⟨.slnil, rfl⟩, rfl, List.forall_mem_nil _⟩
  | cons plan plans ih => exact ih.classify

end

end Folio
