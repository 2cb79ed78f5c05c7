import Folio.Proofs.Remote.Replacement
import Folio.Proofs.Table.Selection
/-!
Markers that give way to tables. In whatever order they are listed, the batch replaces all of them
at once: each range, at the place where it was found, is a table of its own plan afterwards, and the
rest of the document is as before (`skeletonRequests_replaceAll`).
-/
set_option autoImplicit false

namespace Folio

open Edit Remote

/-- A document service, as far as it puts tables in place: what is deleted is gone, and a table of a
shape that the service takes is put where it is asked for. -/
structure TableService where
  step : Content → Request → Option Content
  blank : Nat → Nat → Content
  takes : Nat → Nat → Prop
  delete : ∀ (c : Content) (r : Range), r.isEmpty = false →
    step c (.delete r) = replaceRange r.start r.stop (fun _ => []) c
  insertTable : ∀ (c : Content) (i rows columns : Nat), takes rows columns →
    step c (.insertTable i rows columns) = replaceRange i i (fun _ => blank rows columns) c

def TableService.remote : TableService where
  step := applyRequest
  blank rows columns := inLook .plain (blankTable rows columns)
  takes rows columns := 1 ≤ rows ∧ 1 ≤ columns
  delete c r h := by rw [applyRequest, h]; rfl
  insertTable c i rows columns h := by rw [applyRequest, if_pos h]

def plannedShape (plans : List TablePlan) (ordinal : Nat) : Nat × Nat :=
  match plans.find? (·.ordinal == ordinal) with
  | some plan => (plan.rows, plan.columns)
  | none => (0, 0)

def skeletonOf (blank : Nat → Nat → Content) (plans : List TablePlan) (m : MarkerMatch) :
    Replacement :=
  ⟨m.range, blank (plannedShape plans m.ordinal).1 (plannedShape plans m.ordinal).2⟩

theorem Numbered.plannedShape_eq {plans : List TablePlan} (h : Numbered plans) {i : Nat}
    {plan : TablePlan} (hplan : plans[i]? = some plan) :
    plannedShape plans i = (plan.rows, plan.columns) := by
  obtain ⟨hi, rfl⟩ := List.getElem?_eq_some_iff.1 hplan
  have hfind := h.find? (List.getElem_mem hi)
  rw [h.ordinal_getElem hi] at hfind
  simp only [plannedShape, hfind]

/-- Markers that can be replaced in a document: they have plans and stand apart from each other. -/
structure Replaceable (plans : List TablePlan) (selected : List MarkerMatch) (c : Content) :
    Prop where
  ordinal : ∀ m ∈ selected, m.ordinal < plans.length
  range : ∀ m ∈ selected, 1 ≤ m.start ∧ m.start < m.stop ∧ m.stop ≤ c.length + 1
  disjoint : selected.Pairwise fun a b => a.stop ≤ b.start ∨ b.stop ≤ a.start

section

variable {plans : List TablePlan} {selected : List MarkerMatch} {c : Content}

theorem replaceMarker_eq (hplans : Numbered plans) {m : MarkerMatch}
    (hord : m.ordinal < plans.length) :
    replaceMarker plans m = [.delete m.range, .insertTable m.start
      (plannedShape plans m.ordinal).1 (plannedShape plans m.ordinal).2] := by
  obtain ⟨plan, hplan, -⟩ := hplans.getElem? hord
  simp only [replaceMarker, hplan, hplans.plannedShape_eq hplan]

theorem foldlM_replaceMarker (service : TableService) (hplans : Numbered plans) {m : MarkerMatch}
    (hord : m.ordinal < plans.length) (hrange : m.start < m.stop)
    (htakes : service.takes (plannedShape plans m.ordinal).1 (plannedShape plans m.ordinal).2)
    {before old after : Content} (hstart : before.length + 1 = m.start)
    (hstop : m.stop = m.start + old.length) :
    (replaceMarker plans m).foldlM service.step (before ++ old ++ after) =
      some (before ++ (skeletonOf service.blank plans m).new ++ after) := by
  have hne : m.range.isEmpty = false := decide_eq_false (Nat.not_le.2 hrange)
  have hdelete : service.step (before ++ old ++ after) (.delete m.range) =
      some (before ++ [] ++ after) := by
    rw [service.delete _ _ hne]
    exact replaceRange_middle (fun _ => []) hstart hstop
  have hinsert : service.step (before ++ [] ++ after)
      (.insertTable m.start (plannedShape plans m.ordinal).1 (plannedShape plans m.ordinal).2) =
        some (before ++ (skeletonOf service.blank plans m).new ++ after) := by
    rw [service.insertTable _ _ _ _ htakes]
    exact replaceRange_middle (fun _ => (skeletonOf service.blank plans m).new) hstart rfl
  rw [replaceMarker_eq hplans hord]
  simp only [List.foldlM_cons, List.foldlM_nil, hdelete, Option.bind_eq_bind, Option.bind_some,
    hinsert, Option.pure_def]

/-- The order in which markers are replaced is that of the document, backwards. -/
theorem Replaceable.pairwise_reverse (h : Replaceable plans selected c) :
    (byDescendingStart selected).reverse.Pairwise fun a b => a.stop ≤ b.start := by
  have hperm : (byDescendingStart selected).Perm selected := List.mergeSort_perm selected _
  have hsorted : (byDescendingStart selected).Pairwise fun a b => b.start ≤ a.start :=
    (@List.pairwise_mergeSort MarkerMatch (fun a b => decide (b.start ≤ a.start))
      (fun a b c => by simp; omega) (fun a b => by simp; omega) selected).imp
        fun hle => by simpa using hle
  have hdisjoint : (byDescendingStart selected).Pairwise
      fun a b => a.stop ≤ b.start ∨ b.stop ≤ a.start :=
    hperm.symm.pairwise h.disjoint fun hor => hor.symm
  rw [List.pairwise_reverse]
  refine (hsorted.and hdisjoint).imp_of_mem fun ha hb hab => ?_
  have hrange := h.range _ (hperm.mem_iff.1 ha)
  omega

/-- The batch makes all replacements, here listed in the order of the document. -/
theorem Replaceable.foldlM_inOrder (h : Replaceable plans selected c) (service : TableService)
    (hplans : Numbered plans)
    (htakes : ∀ m ∈ selected,
      service.takes (plannedShape plans m.ordinal).1 (plannedShape plans m.ordinal).2) :
    (skeletonRequests selected plans).foldlM service.step c =
      some (replaceAll ((byDescendingStart selected).reverse.map (skeletonOf service.blank plans))
        1 c) := by
  have hmem : ∀ m ∈ (byDescendingStart selected).reverse, m ∈ selected := fun m hm =>
    (List.mergeSort_perm selected _).mem_iff.1 (List.mem_reverse.1 hm)
  have hbatch := @foldlM_replaceAll MarkerMatch service.step (byDescendingStart selected).reverse
    (skeletonOf service.blank plans) (replaceMarker plans) 1 [] c h.pairwise_reverse
    (fun m hm => by
      have hrange := h.range m (hmem m hm)
      exact ⟨hrange.1, Nat.le_of_lt hrange.2.1, by rw [Nat.add_comm]; exact hrange.2.2⟩)
    (fun m hm before old after hstart hstop =>
      foldlM_replaceMarker service hplans (h.ordinal m (hmem m hm)) (h.range m (hmem m hm)).2.1
        (htakes m (hmem m hm)) hstart hstop)
    rfl []
  simpa [skeletonRequests] using hbatch

theorem Replaceable.foldlM_skeletonRequests (h : Replaceable plans selected c)
    (service : TableService) (hplans : Numbered plans)
    (htakes : ∀ m ∈ selected,
      service.takes (plannedShape plans m.ordinal).1 (plannedShape plans m.ordinal).2) :
    (skeletonRequests selected plans).foldlM service.step c =
      some (replaceAll (selected.map (skeletonOf service.blank plans)) 1 c) := by
  have hperm : (byDescendingStart selected).Perm selected := List.mergeSort_perm selected _
  have hstarts : (selected.map (skeletonOf service.blank plans)).Pairwise
      fun a b => a.range.start ≠ b.range.start := by
    refine List.pairwise_map.2 (h.disjoint.imp_of_mem fun {a b} ha hb hor => ?_)
    have hra := h.range a ha
    have hrb := h.range b hb
    change a.start ≠ b.start
    omega
  rw [h.foldlM_inOrder service hplans htakes, replaceAll_perm
    (((List.reverse_perm _).trans hperm).map (skeletonOf service.blank plans)).symm hstarts 1 c]

/-- A batch of skeletons is one replacement of all markers: each range gives way to a table of the
shape that is planned for its ordinal, at the place where the range was, and every other spot stays.
Every marker is deleted once, and a table is put in its place. -/
theorem skeletonRequests_replaceAll (h : Replaceable plans selected c) (service : TableService)
    (hplans : Numbered plans)
    (htakes : ∀ m ∈ selected,
      service.takes (plannedShape plans m.ordinal).1 (plannedShape plans m.ordinal).2) :
    (skeletonRequests selected plans).foldlM service.step c =
        some (replaceAll (selected.map (skeletonOf service.blank plans)) 1 c) ∧
      ∃ ordered : List MarkerMatch, ordered.Perm selected ∧
        skeletonRequests selected plans = ordered.flatMap fun m => [.delete m.range,
          .insertTable m.start (plannedShape plans m.ordinal).1
            (plannedShape plans m.ordinal).2] := by
  have hperm : (byDescendingStart selected).Perm selected := List.mergeSort_perm selected _
  refine ⟨h.foldlM_skeletonRequests service hplans htakes, byDescendingStart selected, hperm, ?_⟩
  rw [skeletonRequests, List.flatMap_def, List.flatMap_def]
  exact congrArg _ (List.map_congr_left fun m hm =>
    replaceMarker_eq hplans (h.ordinal m (hperm.mem_iff.1 hm)))

theorem skeletonRequests_adjacent :
    let row (columns : Nat) : Node := .new .tableRow (List.replicate columns (.leaf .tableCell))
    let plans := [TablePlan.ofNode 0 (.new (.table "") [row 2]),
      .ofNode 1 (.new (.table "") [row 1, row 1])]
    let selected : List MarkerMatch := [⟨0, 2, 3, 0⟩, ⟨1, 5, 6, 0⟩, ⟨0, 3, 4, 0⟩]
    let c := inLook .plain (glyphsOf "abcdef")
    Replaceable plans selected c ∧ Numbered plans ∧
      (skeletonRequests selected plans).foldlM applyRequest c =
        some (inLook .plain (glyphsOf "a" ++ blankTable 1 2 ++ blankTable 1 2 ++ glyphsOf "d" ++
          blankTable 2 1 ++ glyphsOf "f")) := by
  intro row plans selected c
  have h : Replaceable plans selected c := ⟨by decide, by decide, by decide⟩
  have hplans : Numbered plans := rfl
  refine ⟨h, hplans, (skeletonRequests_replaceAll h .remote hplans ?_).1.trans ?_⟩
  · change ∀ m ∈ selected, 1 ≤ (plannedShape plans m.ordinal).1 ∧
      1 ≤ (plannedShape plans m.ordinal).2
    decide
  · decide

end

end Folio
