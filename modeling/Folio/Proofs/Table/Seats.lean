import Mathlib.Algebra.GroupWithZero.Nat
import Mathlib.Data.List.Forall2
import Mathlib.Data.List.Nodup
import Folio.Proofs.Table.Apart
import Folio.Proofs.Table.Replacing
/-!
Where the tables stand that have replaced markers. Each of them begins where its marker began, moved
by what the markers before it gave up and the tables in their places take (`forall₂_seats`), and a
snapshot shows them in the order of the markers (`tables_replaceAll`).
-/
set_option autoImplicit false

namespace Folio

open Edit Remote

section

variable (plans : List TablePlan)

def skeletonAt (m : MarkerMatch) (position : Nat) : Snapshot.Table :=
  blankTableAt position (plannedShape plans m.ordinal).1 (plannedShape plans m.ordinal).2

def skeletonLength (m : MarkerMatch) : Nat :=
  (blankTable (plannedShape plans m.ordinal).1 (plannedShape plans m.ordinal).2).length

/-- Where the tables of markers begin, one marker behind the other, if what stood at `p` before
stands at `q` now. -/
def seats (p q : Nat) : List MarkerMatch → List Nat
  | [] => []
  | m :: ms => (q + (m.start - p)) :: seats m.stop (q + (m.start - p) + skeletonLength plans m) ms

def inDocumentOrder (ms : List MarkerMatch) : List MarkerMatch := (byDescendingStart ms).reverse

def removedBefore (ms : List MarkerMatch) (m : MarkerMatch) : Nat :=
  ((ms.filter (·.start < m.start)).map fun a => a.stop - a.start).sum

def addedBefore (ms : List MarkerMatch) (m : MarkerMatch) : Nat :=
  ((ms.filter (·.start < m.start)).map (skeletonLength plans)).sum

end

section

variable {plans : List TablePlan} {ms ms' : List MarkerMatch} {m m' : MarkerMatch} {p q : Nat}

theorem skeletonLength_pos (plans : List TablePlan) (m : MarkerMatch) :
    0 < skeletonLength plans m := by
  rw [skeletonLength, blankTable_length]
  omega

theorem seats_length : (seats plans p q ms).length = ms.length := by
  induction ms generalizing p q with
  | nil => rfl
  | cons m ms ih => rw [seats, List.length_cons, ih, List.length_cons]

theorem le_of_mem_seats {x : Nat} (h : x ∈ seats plans p q ms) : q ≤ x := by
  induction ms generalizing p q with
  | nil => cases h
  | cons m ms ih =>
    rcases List.mem_cons.1 h with rfl | h
    · exact Nat.le_add_right _ _
    · have := ih h
      omega

theorem seats_pairwise : (seats plans p q ms).Pairwise (· < ·) := by
  induction ms generalizing p q with
  | nil => exact .nil
  | cons m ms ih =>
    refine .cons (fun x hx => ?_) ih
    have hle := le_of_mem_seats hx
    have hpos := skeletonLength_pos plans m
    omega

theorem inDocumentOrder_perm (ms : List MarkerMatch) : (inDocumentOrder ms).Perm ms :=
  (List.reverse_perm _).trans (List.mergeSort_perm ms _)

theorem Replaceable.pairwise_inDocumentOrder {c : Content} (h : Replaceable plans ms c) :
    (inDocumentOrder ms).Pairwise fun a b => a.stop ≤ b.start :=
  h.pairwise_reverse

theorem Replaceable.inside {c : Content} (h : Replaceable plans ms c) :
    ∀ m ∈ inDocumentOrder ms, 1 ≤ m.start ∧ m.start < m.stop ∧ m.stop ≤ 1 + c.length := by
  intro m hm
  rw [Nat.add_comm]
  exact h.range m ((inDocumentOrder_perm ms).mem_iff.1 hm)

theorem removedBefore_perm (h : ms.Perm ms') : removedBefore ms m = removedBefore ms' m :=
  ((h.filter _).map _).sum_nat

theorem addedBefore_perm (h : ms.Perm ms') : addedBefore plans ms m = addedBefore plans ms' m :=
  ((h.filter _).map _).sum_nat

theorem forall₂_seats (horder : ms.Pairwise fun a b => a.stop ≤ b.start)
    (hinside : ∀ m ∈ ms, p ≤ m.start ∧ m.start < m.stop) :
    List.Forall₂ (fun m x => x + (p + removedBefore ms m) = q + m.start + addedBefore plans ms m) ms
      (seats plans p q ms) := by
  induction ms generalizing p q with
  | nil => exact .nil
  | cons m ms ih =>
    rw [List.pairwise_cons] at horder
    rw [List.forall_mem_cons] at hinside
    obtain ⟨⟨hle, hlt⟩, hrest⟩ := hinside
    refine .cons ?_ ?_
    · have hnone : (m :: ms).filter (·.start < m.start) = [] := by
        refine List.filter_eq_nil_iff.2 (List.forall_mem_cons.2 ⟨by simp, fun m' hm' => ?_⟩)
        have := horder.1 m' hm'
        simp only [decide_eq_true_eq]
        omega
      simp only [removedBefore, addedBefore, hnone, List.map_nil, List.sum_nil]
      omega
    · -- For all markers behind it, `m` is one more marker before.
      have hlater := @ih m.stop (q + (m.start - p) + skeletonLength plans m) horder.2 fun m' hm' =>
        ⟨horder.1 m' hm', (hrest m' hm').2⟩
      refine ((List.forall₂_and_left _ _).2 ⟨horder.1, hlater⟩).imp fun m' x hx => ?_
      obtain ⟨hbehind, hx⟩ := hx
      have hcons : (m :: ms).filter (·.start < m'.start) = m :: ms.filter (·.start < m'.start) :=
        List.filter_cons_of_pos (by simp only [decide_eq_true_eq]; omega)
      simp only [removedBefore, addedBefore, hcons, List.map_cons, List.sum_cons] at hx ⊢
      omega

/-- No two markers have the same seat. -/
theorem seat_injective (horder : ms.Pairwise fun a b => a.stop ≤ b.start)
    (hinside : ∀ m ∈ ms, 1 ≤ m.start ∧ m.start < m.stop) (hm : m ∈ ms) (hm' : m' ∈ ms) {x : Nat}
    (hx : x + removedBefore ms m = m.start + addedBefore plans ms m)
    (hx' : x + removedBefore ms m' = m'.start + addedBefore plans ms m') : m = m' := by
  have hseats := @forall₂_seats plans ms 1 1 horder hinside
  rw [List.forall₂_iff_get] at hseats
  obtain ⟨hlen, hget⟩ := hseats
  obtain ⟨i, hi, rfl⟩ := List.getElem_of_mem hm
  obtain ⟨j, hj, rfl⟩ := List.getElem_of_mem hm'
  have hi' := hget i hi (hlen ▸ hi)
  have hj' := hget j hj (hlen ▸ hj)
  simp only [List.get_eq_getElem] at hi' hj'
  have hsame : (seats plans 1 1 ms).get ⟨i, hlen ▸ hi⟩ =
      (seats plans 1 1 ms).get ⟨j, hlen ▸ hj⟩ := by
    simp only [List.get_eq_getElem]
    omega
  obtain rfl := Fin.mk.inj ((List.Nodup.get_inj_iff (seats_pairwise.imp Nat.ne_of_lt)).1 hsame)
  rfl

theorem tables_replaceAll {c : Content} (hplain : ∀ g ∈ glyphs c, g.isPlain)
    (horder : ms.Pairwise fun a b => a.stop ≤ b.start)
    (hinside : ∀ m ∈ ms, p ≤ m.start ∧ m.start < m.stop ∧ m.stop ≤ p + c.length) (q : Nat) :
    (read q (glyphs
        (replaceAll (ms.map (skeletonOf TableService.remote.blank plans)) p c))).tables =
      List.zipWith (skeletonAt plans) ms (seats plans p q ms) := by
  induction ms generalizing p c q with
  | nil =>
    have h := tables_plain hplain q []
    rw [List.append_nil] at h
    rw [List.map_nil, replaceAll_nil, h]
    rfl
  | cons m ms ih =>
    rw [List.pairwise_cons] at horder
    rw [List.forall_mem_cons] at hinside
    obtain ⟨⟨hle, hlt, hend⟩, hrest⟩ := hinside
    obtain ⟨a, x, b, rfl, ha, hx⟩ := exists_split (c := c)
      (Nat.sub_le_sub_right (Nat.le_of_lt hlt) p) (Nat.sub_le_iff_le_add'.2 hend)
    simp only [glyphs_append, List.forall_mem_append] at hplain
    have hlater := fun q => @ih m.stop b hplain.2.2 horder.2 (fun m' hm' => by
      have h1 := horder.1 m' hm'
      have h2 := hrest m' hm'
      simp only [List.length_append] at h2
      omega) q
    have hbehind : ∀ r ∈ ms.map (skeletonOf TableService.remote.blank plans),
        m.stop ≤ r.range.start := by
      intro r hr
      obtain ⟨m', hm', rfl⟩ := List.mem_map.1 hr
      exact horder.1 m' hm'
    have hcons := @replaceAll_cons (skeletonOf TableService.remote.blank plans m) _ p a x
      (show m.start = p + a.length by omega) (show m.stop = m.start + x.length by omega) hbehind b
    have hblank : glyphs (skeletonOf TableService.remote.blank plans m).new =
        blankTable (plannedShape plans m.ordinal).1 (plannedShape plans m.ordinal).2 :=
      glyphs_inLook _ _
    have hseat : q + (glyphs a).length = q + (m.start - p) := by
      rw [glyphs, List.length_map]
      omega
    rw [List.map_cons, hcons, glyphs_append, glyphs_append, tables_plain hplain.1, hblank,
      tables_blankTable, hseat, seats, List.zipWith_cons_cons]
    exact congrArg _ (hlater _)

end

end Folio
