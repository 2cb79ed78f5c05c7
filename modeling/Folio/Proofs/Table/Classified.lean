import Mathlib.Data.List.Perm.Subperm
import Folio.Proofs.Table.Selection
/-!
Every planned table is put into one of four lists, and only the markers that carry its ordinal
decide into which (`selectMarkers_classified`): how many they are, and for a single one how deep it
lies.
-/
set_option autoImplicit false

namespace Folio

def carrying (found : List MarkerMatch) (ordinal : Nat) : List MarkerMatch :=
  found.filter (·.ordinal == ordinal)

inductive Fate where
  | placed
  | missing
  | nested
  | ambiguous
  deriving DecidableEq

def fateOf : List MarkerMatch → Fate
  | [] => .missing
  | [m] => if m.depth = 0 then .placed else .nested
  | _ => .ambiguous

namespace Placement

def listOf (p : Placement) : Fate → List Nat
  | .placed => p.placed
  | .missing => p.missing
  | .nested => p.nested
  | .ambiguous => p.ambiguous

end Placement

/-- A placement of `n` planned tables, and the markers that it replaces, as the markers found want
them. -/
structure Classified (found : List MarkerMatch) (n : Nat) (selected : List MarkerMatch)
    (p : Placement) : Prop where
  ascending : ∀ fate, (p.listOf fate).Pairwise (· < ·)
  once : (p.placed ++ p.missing ++ p.nested ++ p.ambiguous).Perm (List.range n)
  placed : ∀ i < n, i ∈ p.placed ↔ ∃ m, carrying found i = [m] ∧ m.depth = 0
  missing : ∀ i < n, i ∈ p.missing ↔ ∀ m ∈ found, m.ordinal ≠ i
  nested : ∀ i < n, i ∈ p.nested ↔ ∃ m, carrying found i = [m] ∧ 0 < m.depth
  ambiguous : ∀ i < n, i ∈ p.ambiguous ↔ 2 ≤ (carrying found i).length
  ordinals : selected.map (·.ordinal) = p.placed
  only : ∀ m ∈ selected, carrying found m.ordinal = [m]

section

variable {found ms : List MarkerMatch} {count n i : Nat} {plans : List TablePlan}

theorem carrying_eq_nil_iff : carrying found i = [] ↔ ∀ m ∈ found, m.ordinal ≠ i := by
  simp [carrying, List.filter_eq_nil_iff]

theorem markersOf_eq_carrying (h : i < count) : markersOf found count i = carrying found i := by
  refine List.filter_congr fun m _ => ?_
  by_cases hm : m.ordinal = i
  · simp [hm, h]
  · simp [hm]

theorem markersOf_filter (found : List MarkerMatch) (count i : Nat) :
    markersOf (found.filter (·.ordinal < count)) count i = markersOf found count i := by
  rw [markersOf, markersOf, List.filter_filter]
  refine List.filter_congr fun m _ => ?_
  cases decide (m.ordinal < count) <;> simp

theorem fateOf_eq_placed : fateOf ms = .placed ↔ ∃ m, ms = [m] ∧ m.depth = 0 := by
  rcases ms with _ | ⟨m, _ | ⟨m', ms⟩⟩
  · simp [fateOf]
  · by_cases h : m.depth = 0 <;> simp [fateOf, h]
  · simp [fateOf]

theorem fateOf_eq_missing : fateOf ms = .missing ↔ ms = [] := by
  rcases ms with _ | ⟨m, _ | ⟨m', ms⟩⟩
  · simp [fateOf]
  · by_cases h : m.depth = 0 <;> simp [fateOf, h]
  · simp [fateOf]

theorem fateOf_eq_nested : fateOf ms = .nested ↔ ∃ m, ms = [m] ∧ 0 < m.depth := by
  rcases ms with _ | ⟨m, _ | ⟨m', ms⟩⟩
  · simp [fateOf]
  · by_cases h : m.depth = 0
    · simp [fateOf, h]
    · simp [fateOf, h, Nat.pos_of_ne_zero h]
  · simp [fateOf]

theorem fateOf_eq_ambiguous : fateOf ms = .ambiguous ↔ 2 ≤ ms.length := by
  rcases ms with _ | ⟨m, _ | ⟨m', ms⟩⟩
  · simp [fateOf]
  · by_cases h : m.depth = 0 <;> simp [fateOf, h]
  · simp [fateOf]

theorem listOf_classify (plan : TablePlan) (ms selected : List MarkerMatch) (p : Placement)
    (fate : Fate) : (classify plan ms (selected, p)).2.listOf fate =
      if fateOf ms = fate then plan.ordinal :: p.listOf fate else p.listOf fate := by
  rcases ms with _ | ⟨m, _ | ⟨m', ms⟩⟩
  · cases fate <;> rfl
  · by_cases h : m.depth = 0 <;> cases fate <;> simp [classify, fateOf, h, Placement.listOf]
  · cases fate <;> rfl

theorem listOf_selectMarkers (found : List MarkerMatch) (plans : List TablePlan) (fate : Fate) :
    (selectMarkers found plans).2.listOf fate = (plans.map (·.ordinal)).filter
      fun i => fateOf (markersOf found plans.length i) = fate := by
  unfold selectMarkers
  generalize plans.length = count
  induction plans with
  | nil => cases fate <;> rfl
  | cons plan plans ih =>
    rw [List.foldr_cons, listOf_classify, ih, List.map_cons, List.filter_cons]
    simp only [decide_eq_true_eq]

theorem Numbered.listOf_selectMarkers (h : Numbered plans) (found : List MarkerMatch)
    (fate : Fate) : (selectMarkers found plans).2.listOf fate =
      (List.range plans.length).filter fun i => fateOf (carrying found i) = fate := by
  rw [Folio.listOf_selectMarkers, h]
  refine List.filter_congr fun i hi => ?_
  rw [markersOf_eq_carrying (List.mem_range.1 hi)]

theorem Numbered.mem_listOf (h : Numbered plans) (fate : Fate) (hi : i < plans.length) :
    i ∈ (selectMarkers found plans).2.listOf fate ↔ fateOf (carrying found i) = fate := by
  rw [h.listOf_selectMarkers]
  simp [hi]

theorem perm_fates (f : Nat → Fate) (l : List Nat) :
    (l.filter (f · = .placed) ++ l.filter (f · = .missing) ++ l.filter (f · = .nested) ++
      l.filter (f · = .ambiguous)).Perm l := by
  rw [List.perm_iff_count]
  intro i
  have hcount (fate : Fate) : (l.filter (f · = fate)).count i =
      if f i = fate then l.count i else 0 := by
    by_cases hfate : f i = fate
    · rw [if_pos hfate, List.count_filter (by simpa using hfate)]
    · rw [if_neg hfate, List.count_eq_zero]
      simp [hfate]
  rw [List.count_append, List.count_append, List.count_append, hcount, hcount, hcount, hcount]
  cases f i <;> simp

/-- The tables of a draft are divided into those that are placed, missing, nested and ambiguous by
the markers that carry their ordinals. Markers of other ordinals make no difference. -/
theorem selectMarkers_classified (found : List MarkerMatch) (h : Numbered plans) :
    Classified found plans.length (selectMarkers found plans).1 (selectMarkers found plans).2 ∧
      selectMarkers (found.filter (·.ordinal < plans.length)) plans =
        selectMarkers found plans := by
  have hselection := selectMarkers_selection found plans
  have hplaced : ∀ i < plans.length, i ∈ (selectMarkers found plans).2.placed ↔
      ∃ m, carrying found i = [m] ∧ m.depth = 0 := fun i hi =>
    (h.mem_listOf .placed hi).trans fateOf_eq_placed
  refine ⟨⟨fun fate => ?_, ?_, hplaced, fun i hi => ?_, fun i hi => ?_, fun i hi => ?_,
    hselection.placed, fun m hm => ?_⟩, ?_⟩
  · rw [h.listOf_selectMarkers]
    exact List.pairwise_lt_range.filter _
  · have hperm := perm_fates (fun i => fateOf (carrying found i)) (List.range plans.length)
    simp only [← h.listOf_selectMarkers] at hperm
    exact hperm
  · exact (h.mem_listOf .missing hi).trans (fateOf_eq_missing.trans carrying_eq_nil_iff)
  · exact (h.mem_listOf .nested hi).trans fateOf_eq_nested
  · exact (h.mem_listOf .ambiguous hi).trans fateOf_eq_ambiguous
  · obtain ⟨hfound, hlt, -⟩ := hselection.marker m hm
    have hmem : m.ordinal ∈ (selectMarkers found plans).2.placed := by
      rw [← hselection.placed]
      exact List.mem_map_of_mem hm
    obtain ⟨m', hm', -⟩ := (hplaced m.ordinal hlt).1 hmem
    have hcarry : m ∈ carrying found m.ordinal := List.mem_filter.2 ⟨hfound, by simp⟩
    rw [hm', List.mem_singleton] at hcarry
    rw [hm', hcarry]
  · simp only [selectMarkers, markersOf_filter]

def absent (found : List MarkerMatch) (n : Nat) : List Nat :=
  (List.range n).filter fun i => (carrying found i).isEmpty

theorem Numbered.missing_eq_absent (h : Numbered plans) (found : List MarkerMatch) :
    (selectMarkers found plans).2.missing = absent found plans.length := by
  refine (h.listOf_selectMarkers found .missing).trans (List.filter_congr fun i _ => ?_)
  rw [Bool.eq_iff_iff, decide_eq_true_eq, fateOf_eq_missing, List.isEmpty_iff]

def present (found : List MarkerMatch) (n : Nat) : List Nat :=
  (List.range n).filter fun i => !(carrying found i).isEmpty

theorem length_absent_add_present (found : List MarkerMatch) (n : Nat) :
    (absent found n).length + (present found n).length = n := by
  have h := List.length_eq_length_filter_add (l := List.range n) fun i => (carrying found i).isEmpty
  rw [List.length_range] at h
  exact h.symm

theorem mem_present : i ∈ present found n ↔ i < n ∧ i ∈ found.map (·.ordinal) := by
  rw [present, List.mem_filter, List.mem_range, Bool.not_eq_true', List.isEmpty_eq_false_iff, Ne,
    carrying_eq_nil_iff]
  simp

theorem present_subperm (found : List MarkerMatch) (n : Nat) :
    (present found n).Subperm (found.map (·.ordinal)) :=
  List.subperm_of_subset (List.nodup_range.filter _) fun _ hi => (mem_present.1 hi).2

/-- As many ordinals are present as there are markers, if each marker has one of its own. -/
theorem length_present_eq_iff : (present found n).length = found.length ↔
    (found.map (·.ordinal)).Nodup ∧ ∀ m ∈ found, m.ordinal < n := by
  constructor
  · intro hlen
    have hperm := (present_subperm found n).perm_of_length_le (by simp [hlen])
    refine ⟨hperm.nodup_iff.1 (List.nodup_range.filter _), fun m hm => ?_⟩
    exact (mem_present.1 (hperm.mem_iff.2 (List.mem_map_of_mem hm))).1
  · rintro ⟨hnodup, hlt⟩
    have hsubset : found.map (·.ordinal) ⊆ present found n := fun i hi => by
      obtain ⟨m, hm, rfl⟩ := List.mem_map.1 hi
      exact mem_present.2 ⟨hlt m hm, hi⟩
    have hle := (List.subperm_of_subset hnodup hsubset).length_le
    have hge := (present_subperm found n).length_le
    rw [List.length_map] at hle hge
    exact Nat.le_antisymm hge hle

/-- To subtract the number of markers never gives more than what is absent. -/
theorem sub_length_le_absent (found : List MarkerMatch) (n : Nat) :
    n - found.length ≤ (absent found n).length := by
  have hsum := length_absent_add_present found n
  have hge := (present_subperm found n).length_le
  rw [List.length_map] at hge
  omega

theorem sub_length_eq_absent_iff : n - found.length = (absent found n).length ↔
    absent found n = [] ∨ ((found.map (·.ordinal)).Nodup ∧ ∀ m ∈ found, m.ordinal < n) := by
  have hsum := length_absent_add_present found n
  have hge := (present_subperm found n).length_le
  rw [List.length_map] at hge
  rw [← length_present_eq_iff, ← List.length_eq_zero_iff]
  omega

end

theorem selectMarkers_classified_five :
    let plans := (List.range 5).map (TablePlan.ofNode · (.leaf (.table "")))
    let found : List MarkerMatch := [⟨4, 200, 230, 0⟩, ⟨2, 3, 33, 2⟩, ⟨9, 40, 70, 0⟩,
      ⟨0, 90, 120, 0⟩, ⟨3, 150, 180, 1⟩, ⟨4, 240, 270, 3⟩, ⟨3, 150, 180, 1⟩]
    Numbered plans ∧ selectMarkers found plans = ([⟨0, 90, 120, 0⟩], ⟨[0], [1], [2], [3, 4]⟩) ∧
      Classified found 5 [⟨0, 90, 120, 0⟩] ⟨[0], [1], [2], [3, 4]⟩ := by
  intro plans found
  have hplans : Numbered plans := rfl
  have hselect : selectMarkers found plans = ([⟨0, 90, 120, 0⟩], ⟨[0], [1], [2], [3, 4]⟩) := rfl
  have h := (selectMarkers_classified found hplans).1
  rw [hselect] at h
  exact ⟨hplans, hselect, h⟩

end Folio
