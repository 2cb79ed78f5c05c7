import Folio.Proofs.Export.Accounting
import Folio.Proofs.Table.Classified
/-!
All that one call of placing can come to, by the document that was fetched
(`placeSkeletons_runs_iff`). Markers are only sorted out in a document without tables. A marker
inside a table needs a table around it (`Snapshot.depth_pos_iff`), so whoever sorts markers out
never sees one.
-/
set_option autoImplicit false

namespace Folio

open Edit Process Exchange

namespace Snapshot

variable {key : List Char} {m : MarkerMatch}

theorem depth_of_mem_markersIn {depth index : Nat} {cs : List Char}
    (h : m ∈ markersIn key depth index cs) : m.depth = depth := by
  induction cs generalizing index with
  | nil => cases h
  | cons c cs ih =>
    rw [markersIn] at h
    split at h
    · rcases List.mem_cons.1 h with rfl | h
      · rfl
      · exact ih h
    · exact ih h

mutual

theorem Element.le_depth (depth : Nat) : (e : Element) → m ∈ e.markers key depth → depth ≤ m.depth
  | .mk start stop paragraph none, h => by
    rw [Element.markers, List.append_nil] at h
    exact Nat.le_of_eq (depth_of_mem_markersIn h).symm
  | .mk start stop paragraph (some t), h => by
    rw [Element.markers, List.mem_append] at h
    rcases h with h | h
    · exact Nat.le_of_eq (depth_of_mem_markersIn h).symm
    · exact Nat.le_of_lt (t.lt_depth depth h)

theorem Table.lt_depth (depth : Nat) : (t : Table) → m ∈ t.markers key depth → depth < m.depth
  | .mk _ _ rows, h => lt_depth_of_mem_rows depth rows h

theorem Row.lt_depth (depth : Nat) : (r : Row) → m ∈ r.markers key depth → depth < m.depth
  | .mk _ _ cells, h => lt_depth_of_mem_cells depth cells h

theorem Cell.lt_depth (depth : Nat) : (c : Cell) → m ∈ c.markers key depth → depth < m.depth
  | .mk _ _ content, h => le_depth_of_mem_elements (depth + 1) content h

theorem le_depth_of_mem_elements (depth : Nat) :
    (es : List Element) → m ∈ elementsMarkers key depth es → depth ≤ m.depth
  | [], h => by cases h
  | e :: es, h => by
    rw [elementsMarkers, List.mem_append] at h
    exact h.elim (e.le_depth depth) (le_depth_of_mem_elements depth es)

theorem lt_depth_of_mem_rows (depth : Nat) :
    (rs : List Row) → m ∈ rowsMarkers key depth rs → depth < m.depth
  | [], h => by cases h
  | r :: rs, h => by
    rw [rowsMarkers, List.mem_append] at h
    exact h.elim (r.lt_depth depth) (lt_depth_of_mem_rows depth rs)

theorem lt_depth_of_mem_cells (depth : Nat) :
    (cs : List Cell) → m ∈ cellsMarkers key depth cs → depth < m.depth
  | [], h => by cases h
  | c :: cs, h => by
    rw [cellsMarkers, List.mem_append] at h
    exact h.elim (c.lt_depth depth) (lt_depth_of_mem_cells depth cs)

end

theorem exists_table_of_mem_elements {es : List Element} (h : m ∈ elementsMarkers key 0 es)
    (hpos : 0 < m.depth) : ∃ t ∈ es.filterMap (·.table), m ∈ t.markers key 0 := by
  induction es with
  | nil => cases h
  | cons e es ih =>
    have hrest : m ∈ elementsMarkers key 0 es →
        ∃ t ∈ (e :: es).filterMap (·.table), m ∈ t.markers key 0 := fun h => by
      obtain ⟨t, ht, hm⟩ := ih h
      exact ⟨t, ((List.sublist_cons_self e es).filterMap _).mem ht, hm⟩
    have htext : ∀ {start : Nat} {cs : List Char}, m ∉ markersIn key 0 start cs := fun h =>
      Nat.ne_of_gt hpos (depth_of_mem_markersIn h)
    rw [elementsMarkers, List.mem_append] at h
    refine h.elim (fun h => ?_) hrest
    obtain ⟨start, stop, paragraph, table⟩ := e
    cases table with
    | none =>
      rw [Element.markers, List.append_nil] at h
      exact absurd h htext
    | some t =>
      rw [Element.markers, List.mem_append] at h
      exact ⟨t, List.mem_cons_self, h.resolve_left htext⟩

theorem depth_pos_iff {s : Snapshot} {fingerprint : String} (h : m ∈ s.markers fingerprint) :
    0 < m.depth ↔ ∃ t ∈ s.tables, m ∈ t.markers fingerprint.toList 0 :=
  ⟨exists_table_of_mem_elements h, fun ⟨t, _, hm⟩ => t.lt_depth 0 hm⟩

theorem tables_ne_nil_of_depth {s : Snapshot} {fingerprint : String}
    (h : m ∈ s.markers fingerprint) (hpos : 0 < m.depth) : s.tables ≠ [] := by
  obtain ⟨t, ht, -⟩ := (depth_pos_iff h).1 hpos
  exact List.ne_nil_of_mem ht

end Snapshot

/-- No marker is left, and there are as many tables as planned. -/
def Snapshot.Finished (s : Snapshot) (fingerprint : String) (plans : List TablePlan) : Prop :=
  s.markers fingerprint = [] ∧ s.tables.length = plans.length

inductive Placing (document fingerprint : String) (plans : List TablePlan) :
    List Exchange → Except TableError Placement → Prop where
  | unfetched (e : ServiceError) :
    Placing document fingerprint plans [fetched document (.error e)] (.error (.service e))
  | finished (s : Snapshot) (h : s.Finished fingerprint plans) :
    Placing document fingerprint plans [fetched document (.ok s)] (.ok (.ofPlans plans))
  /-- Tables that are there already are in the way. -/
  | refused (s : Snapshot) (h : ¬s.Finished fingerprint plans) (htables : s.tables ≠ []) :
    Placing document fingerprint plans [fetched document (.ok s)]
      (.error (.placeholderMissing plans.length
        (plans.length - (s.markers fingerprint).length)))
  | uncommitted (s : Snapshot) (h : ¬s.Finished fingerprint plans) (htables : s.tables = [])
      {selected : List MarkerMatch} {p : Placement}
      (hselected : selectMarkers (s.markers fingerprint) plans = (selected, p))
      (hne : skeletonRequests selected plans ≠ []) (e : ServiceError) :
    Placing document fingerprint plans
      [fetched document (.ok s),
        committed document (skeletonRequests selected plans) (.error e)] (.error (.service e))
  | placed (s : Snapshot) (h : ¬s.Finished fingerprint plans) (htables : s.tables = [])
      {selected : List MarkerMatch} {p : Placement}
      (hselected : selectMarkers (s.markers fingerprint) plans = (selected, p)) :
    Placing document fingerprint plans
      (fetched document (.ok s) :: structureBatch document (skeletonRequests selected plans))
      (.ok p)

section

variable {document fingerprint : String} {plans : List TablePlan} {t : List Exchange}
  {r : Except TableError Placement}

theorem finished_iff {s : Snapshot} :
    ((s.markers fingerprint).isEmpty && s.tables.length == plans.length) = true ↔
      s.Finished fingerprint plans := by
  simp [Snapshot.Finished]

theorem placing_of_runs (h : (placeSkeletons document fingerprint plans).Runs t r) :
    Placing document fingerprint plans t r := by
  obtain ⟨reply, t', hnext, rfl⟩ := runs_fetch_bind.1 h
  cases reply with
  | error e =>
    obtain ⟨rfl, rfl⟩ := runs_pure.1 hnext
    exact .unfetched e
  | ok s =>
    dsimp only at hnext
    split at hnext
    · rename_i hdone
      obtain ⟨rfl, rfl⟩ := runs_pure.1 hnext
      exact .finished s (finished_iff.1 hdone)
    · rename_i hdone
      rw [finished_iff] at hdone
      split at hnext
      · rename_i hpos
        obtain ⟨rfl, rfl⟩ := runs_pure.1 hnext
        exact .refused s hdone (List.ne_nil_of_length_pos hpos)
      · rename_i hnone
        have htables : s.tables = [] := List.eq_nil_of_length_eq_zero (Nat.eq_zero_of_not_pos hnone)
        obtain ⟨t₁, v, t₂, hbatch, hrest, rfl⟩ := runs_bind.1 hnext
        cases v with
        | ok u =>
          obtain ⟨rfl, rfl⟩ := runs_pure.1 hrest
          rw [runs_commitBatch_ok.1 hbatch, List.append_nil]
          exact .placed s hdone htables rfl
        | error e =>
          obtain ⟨rfl, rfl⟩ := runs_pure.1 hrest
          obtain ⟨hne, source, rfl, rfl⟩ := runs_commitBatch_error.1 hbatch
          exact .uncommitted s hdone htables rfl hne source

theorem Placing.runs (h : Placing document fingerprint plans t r) :
    (placeSkeletons document fingerprint plans).Runs t r := by
  cases h with
  | unfetched e => exact runs_fetch_bind.2 ⟨.error e, [], .done _, rfl⟩
  | finished s h =>
    refine runs_fetch_bind.2 ⟨.ok s, [], ?_, rfl⟩
    dsimp only
    rw [if_pos (finished_iff.2 h)]
    exact .done _
  | refused s h htables =>
    refine runs_fetch_bind.2 ⟨.ok s, [], ?_, rfl⟩
    dsimp only
    rw [if_neg (mt finished_iff.1 h), if_pos (List.length_pos_iff.2 htables)]
    exact .done _
  | @uncommitted s h htables selected p hselected hne e =>
    refine runs_fetch_bind.2 ⟨.ok s, _, ?_, rfl⟩
    dsimp only
    rw [if_neg (mt finished_iff.1 h), htables, List.length_nil, if_neg (Nat.lt_irrefl 0), hselected]
    exact runs_bind.2 ⟨_, .error (.service e), [], runs_commitBatch_error.2 ⟨hne, e, rfl, rfl⟩,
      .done _, rfl⟩
  | @placed s h htables selected p hselected =>
    refine runs_fetch_bind.2 ⟨.ok s, _, ?_, rfl⟩
    dsimp only
    rw [if_neg (mt finished_iff.1 h), htables, List.length_nil, if_neg (Nat.lt_irrefl 0), hselected]
    exact runs_bind.2 ⟨_, .ok (), [], runs_commitBatch_ok.2 rfl, .done _, by simp⟩

theorem placeSkeletons_runs_iff :
    (placeSkeletons document fingerprint plans).Runs t r ↔
      Placing document fingerprint plans t r :=
  ⟨placing_of_runs, Placing.runs⟩

end

end Folio
