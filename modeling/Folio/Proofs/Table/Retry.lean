import Mathlib.Control.Monad.Basic
import Mathlib.Data.List.Pairwise
import Folio.Proofs.Table.Placing
import Folio.Proofs.Table.Seats
import Folio.Proofs.Table.Skeletons
/-!
Placing tables a second time. The second run never sends a batch; it agrees with the first one if
all tables have been placed and no marker is left, or if none was placed, and it refuses the
document in all other cases (`placeSkeletons_retry`).
-/
set_option autoImplicit false

namespace Folio

open Edit Remote Process Exchange

section

variable {document fingerprint : String} {plans : List TablePlan} {c c' : Content}

theorem Remote.Service.run_commitBatch_eq (service : Service) (document : String)
    (requests : List Request) (c : Content) :
    service.run (commitBatch document requests) c =
      match carryOut requests c with
      | some c' => (.ok (), c')
      | none => (.error (.service (.api 400 "invalid request" none)), c) := by
  cases h : carryOut requests c with
  | some c' => exact service.run_commitBatch document h
  | none =>
    have hne : requests ≠ [] := by
      rintro rfl
      cases h
    have hrun : service.run (Process.call (.commit document requests)) c =
        (.error (.api 400 "invalid request" none), c) := by
      simp [Service.run, Process.call, Process.run, Service.answer, h, StateT.run]
    unfold commitBatch
    rw [if_neg (by simpa using hne), service.run_bind, hrun]
    rfl

theorem carryOut_insertTable {rs : List Request} (h : carryOut rs c = some c')
    {i rows columns : Nat} (hr : .insertTable i rows columns ∈ rs) : 1 ≤ rows ∧ 1 ≤ columns := by
  induction rs generalizing c with
  | nil => cases hr
  | cons r rs ih =>
    obtain ⟨d, hd, hrest⟩ := Option.bind_eq_some_iff.1 h
    rcases List.mem_cons.1 hr with rfl | hr
    · rw [applyRequest, Option.ite_none_right_eq_some] at hd
      exact hd.1
    · exact ih hrest hr

theorem takes_of_carryOut (hplans : Numbered plans) {selected : List MarkerMatch}
    (hord : ∀ m ∈ selected, m.ordinal < plans.length)
    (h : carryOut (skeletonRequests selected plans) c = some c') :
    ∀ m ∈ selected, TableService.remote.takes (plannedShape plans m.ordinal).1
      (plannedShape plans m.ordinal).2 := by
  intro m hm
  have hmem : m ∈ byDescendingStart selected := (List.mergeSort_perm selected _).mem_iff.2 hm
  refine carryOut_insertTable h (i := m.start) ?_
  rw [skeletonRequests, List.mem_flatMap]
  refine ⟨m, hmem, ?_⟩
  rw [replaceMarker_eq hplans (hord m hm)]
  simp

theorem eq_of_carryOut_skeletonRequests (hplans : Numbered plans) {selected : List MarkerMatch}
    (hreplaceable : Replaceable plans selected c)
    (h : carryOut (skeletonRequests selected plans) c = some c') :
    c' = replaceAll ((inDocumentOrder selected).map (skeletonOf TableService.remote.blank plans)) 1
      c := by
  have hinOrder := hreplaceable.foldlM_inOrder .remote hplans
    (takes_of_carryOut hplans hreplaceable.ordinal h)
  rw [carryOut_eq_foldlM] at h
  exact Option.some.inj (h.symm.trans hinOrder)

theorem skeletonRequests_nil (plans : List TablePlan) : skeletonRequests [] plans = [] := by
  simp [skeletonRequests, byDescendingStart]

theorem Selection.replaceable {found selected : List MarkerMatch} {p : Placement}
    (h : Selection found plans.length plans selected p) (hplans : Numbered plans)
    (hfound : Apart 1 (c.length + 1) found) : Replaceable plans selected c := by
  have hordinals : (selected.map (·.ordinal)).Pairwise (· < ·) := by
    rw [h.placed]
    exact (List.pairwise_map.2 hplans.pairwise_lt).sublist h.sublist
  have hsymm : Std.Symm fun a b : MarkerMatch => a.stop ≤ b.start ∨ b.stop ≤ a.start :=
    ⟨fun _ _ hor => hor.symm⟩
  have hpairs : found.Pairwise fun a b => a.stop ≤ b.start ∨ b.stop ≤ a.start :=
    hfound.pairwise.imp .inl
  refine ⟨fun m hm => (h.marker m hm).2.1, fun m hm => hfound.within m (h.marker m hm).1, ?_⟩
  refine (List.pairwise_map.1 hordinals).imp_of_mem fun {a b} ha hb hlt => ?_
  refine hpairs.forall (h.marker a ha).1 (h.marker b hb).1 ?_
  rintro rfl
  exact Nat.lt_irrefl _ hlt

theorem placeSkeletons_run_flat_iff (service : Service) (hflat : Flat (glyphs c)) {p : Placement} :
    service.run (placeSkeletons document fingerprint plans) c = (.ok p, c') ↔
      p = (selectMarkers ((service.fetch document c).markers fingerprint) plans).2 ∧
        carryOut (skeletonRequests
          (selectMarkers ((service.fetch document c).markers fingerprint) plans).1 plans) c =
            some c' := by
  refine Eq.congr_left (service.run_fetch_bind document _ c) |>.trans ?_
  simp only [hflat.tables service document, List.length_nil, Nat.lt_irrefl, if_false]
  split
  · rename_i hnone
    rw [Bool.and_eq_true, List.isEmpty_iff, beq_iff_eq] at hnone
    obtain rfl : plans = [] := List.eq_nil_of_length_eq_zero hnone.2.symm
    have hcarry : carryOut (skeletonRequests [] []) c = some c :=
      congrArg (carryOut · c) (skeletonRequests_nil [])
    rw [selectMarkers, List.foldr_nil, hcarry, service.run_pure, Prod.mk.injEq, Except.ok.injEq,
      Option.some.injEq, eq_comm (a := p)]
    rfl
  · rw [service.run_bind, service.run_commitBatch_eq]
    cases carryOut (skeletonRequests
        (selectMarkers ((service.fetch document c).markers fingerprint) plans).1 plans) c with
    | some d =>
      simp only [service.run_pure, Prod.mk.injEq, Except.ok.injEq, Option.some.injEq,
        eq_comm (a := p)]
    | none => simp only [service.run_pure, Prod.mk.injEq, reduceCtorEq, false_and, and_false]

/-- Every table that is placed is in the document afterwards, and there is no other one. -/
theorem placeSkeletons_tables (service : Service) (hplans : Numbered plans)
    (hflat : Flat (glyphs c)) {p : Placement}
    (h : service.run (placeSkeletons document fingerprint plans) c = (.ok p, c')) :
    (service.fetch document c').tables.length = p.placed.length := by
  obtain ⟨rfl, hcarry⟩ := (placeSkeletons_run_flat_iff service hflat).1 h
  have hselection :=
    selectMarkers_selection ((service.fetch document c).markers fingerprint) plans
  have hreplaceable : Replaceable plans _ c :=
    hselection.replaceable hplans (service.markers_apart document fingerprint hflat)
  obtain rfl := eq_of_carryOut_skeletonRequests hplans hreplaceable hcarry
  rw [service.length_tables,
    tables_replaceAll hflat.isPlain hreplaceable.pairwise_inDocumentOrder hreplaceable.inside,
    List.length_zipWith, seats_length, Nat.min_self, ← hselection.placed, List.length_map]
  exact (inDocumentOrder_perm _).length_eq

theorem Remote.Service.run_of_fetched {α : Type} (service : Service) {process : Process α} {a : α}
    (h : process.Runs [fetched document (.ok (service.fetch document c))] a) :
    service.run process c = (a, c) := by
  cases h with
  | @ask _ next _ _ _ h =>
    cases hnext : next (.ok (service.fetch document c)) with
    | done b =>
      rw [hnext] at h
      cases h
      change service.run (next (.ok (service.fetch document c))) c = (a, c)
      rw [hnext]
      rfl
    | ask call next' =>
      rw [hnext] at h
      cases h

/-- What a second run says, after a first one with this placement and with these markers left. -/
def retryVerdict (plans : List TablePlan) (p : Placement) (left : List MarkerMatch) :
    Except TableError Placement :=
  if p.placed = [] ∨ (p.isComplete ∧ left = []) then .ok p
  else .error (.placeholderMissing plans.length (plans.length - left.length))

theorem placeSkeletons_runs_again (service : Service) (hplans : Numbered plans)
    (hflat : Flat (glyphs c)) {p : Placement}
    (h : service.run (placeSkeletons document fingerprint plans) c = (.ok p, c')) :
    (placeSkeletons document fingerprint plans).Runs
      [fetched document (.ok (service.fetch document c'))]
      (retryVerdict plans p ((service.fetch document c').markers fingerprint)) := by
  have htables := placeSkeletons_tables service hplans hflat h
  obtain ⟨hp, hcarry⟩ := (placeSkeletons_run_flat_iff service hflat).1 h
  have hselection :=
    selectMarkers_selection ((service.fetch document c).markers fingerprint) plans
  rw [← hp] at hselection
  have hcomplete := hselection.isComplete_iff
  unfold retryVerdict
  by_cases hdone : p.isComplete ∧ (service.fetch document c').markers fingerprint = []
  · rw [if_pos (.inr hdone), ← hselection.ofPlans_eq hdone.1]
    exact (Placing.finished _ ⟨hdone.2, htables.trans (hcomplete.1 hdone.1)⟩).runs
  have hunfinished : ¬(service.fetch document c').Finished fingerprint plans := by
    rw [Snapshot.Finished, htables, ← hcomplete, and_comm]
    exact hdone
  by_cases hplaced : p.placed = []
  · -- Nothing was selected, so nothing was sent and the document is still the same.
    have hselected := hselection.placed
    rw [hplaced, List.map_eq_nil_iff] at hselected
    rw [hselected, skeletonRequests_nil] at hcarry
    obtain rfl : c = c' := Option.some.inj hcarry
    have hplacing : Placing document fingerprint plans _ (.ok p) :=
      .placed _ hunfinished (hflat.tables service document) (Prod.ext hselected hp.symm)
    rw [skeletonRequests_nil] at hplacing
    rw [if_pos (.inl hplaced)]
    exact hplacing.runs
  · rw [if_neg (not_or.2 ⟨hplaced, hdone⟩)]
    refine (Placing.refused _ hunfinished (List.ne_nil_of_length_pos ?_)).runs
    rw [htables]
    exact List.length_pos_iff.2 hplaced

/-- Placing tables once more, after a run on a document without tables that ended well: whatever the
first run has placed, missed or found twice, the second one sends nothing and changes nothing. It
agrees with the first one exactly if nothing was placed, or everything and no marker is left. -/
theorem placeSkeletons_retry (service : Service) (hplans : Numbered plans)
    (hflat : Flat (glyphs c)) {p : Placement}
    (h : service.run (placeSkeletons document fingerprint plans) c = (.ok p, c')) :
    (placeSkeletons document fingerprint plans).Runs
        [fetched document (.ok (service.fetch document c'))]
        (retryVerdict plans p ((service.fetch document c').markers fingerprint)) ∧
      service.run (placeSkeletons document fingerprint plans) c' =
        (retryVerdict plans p ((service.fetch document c').markers fingerprint), c') := by
  have hruns := placeSkeletons_runs_again service hplans hflat h
  exact ⟨hruns, service.run_of_fetched hruns⟩

end

def oneTable : Document := .ofMarkdown "| A |\n|---|"

def twoTables : Document := .ofMarkdown "| A |\n|---|\n\n| B |\n|---|"

def Document.placeTables (doc : Document) : Process (Except TableError Placement) :=
  placeSkeletons "document" doc.fingerprint (doc.compile .empty .default).plans

def Document.markerLines (doc : Document) (ordinals : List Nat) : Content :=
  inLook .plain (glyphsOf (String.join (ordinals.map fun ordinal =>
    placeholder doc.fingerprint ordinal ++ "\n")))

theorem Document.flat_markerLines (doc : Document) (ordinals : List Nat) :
    Flat (glyphs (doc.markerLines ordinals)) := by
  rw [markerLines, glyphs_inLook]
  exact flat_glyphsOf _

theorem placeSkeletons_retry_complete :
    ∃ c', Service.reference.run oneTable.placeTables (oneTable.markerLines [0]) =
        (.ok ⟨[0], [], [], []⟩, c') ∧
      Service.reference.run oneTable.placeTables c' = (.ok ⟨[0], [], [], []⟩, c') := by
  have hplans := numbered_compile oneTable .empty .default
  have hflat : Flat (glyphs (oneTable.markerLines [0])) := by
    rw [Document.markerLines, glyphs_inLook]
    exact flat_glyphsOf _
  have hfirst : (Service.reference.run oneTable.placeTables (oneTable.markerLines [0])).1 =
      .ok ⟨[0], [], [], []⟩ := by decide +kernel
  have hleft : (Service.reference.fetch "document" (Service.reference.run oneTable.placeTables
      (oneTable.markerLines [0])).2).markers oneTable.fingerprint = [] := by decide +kernel
  generalize hrun : Service.reference.run oneTable.placeTables (oneTable.markerLines [0]) = run
    at hfirst hleft
  obtain ⟨result, c'⟩ := run
  obtain rfl : result = _ := hfirst
  refine ⟨c', rfl, (placeSkeletons_retry Service.reference hplans hflat hrun).2.trans ?_⟩
  rw [retryVerdict, if_pos (.inr ⟨rfl, hleft⟩)]

/-- With one marker missing, or one there twice, the first run places the other table, and the
second one refuses the document: once for two missing markers, and once for none. -/
theorem placeSkeletons_retry_refused :
    let run := Service.reference.run twoTables.placeTables
    let missing := twoTables.markerLines [0]
    let twice := twoTables.markerLines [0, 1, 1]
    ((Service.reference.fetch "document" missing).tables.length = 0 ∧
        (run missing).1 = .ok ⟨[0], [1], [], []⟩ ∧
        (run (run missing).2).1 = .error (.placeholderMissing 2 2)) ∧
      (Service.reference.fetch "document" twice).tables.length = 0 ∧
        (run twice).1 = .ok ⟨[0], [], [], [1]⟩ ∧
        (run (run twice).2).1 = .error (.placeholderMissing 2 0) := by
  decide +kernel

end Folio
