import Folio.Proofs.Remote.Rewrite
/-!
Replacing several ranges of a document at once. `replaceAll` goes through the document as it was and
never counts a position anew; a batch that works from the last range back to the first one, on
ranges that all come from that one document, does the same (`foldlM_replaceAll`), whatever service
carries it out.
-/
set_option autoImplicit false

namespace Folio.Remote

open Edit

/-- New content for a range. An empty range is a place where something is put in. -/
structure Replacement where
  range : Range
  new : Content

def putAt (rs : List Replacement) (p : Nat) : Content :=
  (rs.filter (·.range.start == p)).flatMap (·.new)

def covers (rs : List Replacement) (p : Nat) : Bool :=
  rs.any fun r => r.range.start ≤ p && p < r.range.stop

/-- The content from `p` on with all replacements made at once: in front of each spot stands what is
put in there, and the spot itself stays unless it is replaced. -/
def replaceAll (rs : List Replacement) (p : Nat) : Content → Content
  | [] => putAt rs p
  | s :: c => putAt rs p ++ ((if covers rs p then [] else [s]) ++ replaceAll rs (p + 1) c)

section

variable {r : Replacement} {rs rs' : List Replacement} {p : Nat}

theorem putAt_eq_nil (h : ∀ r ∈ rs, r.range.start ≠ p) : putAt rs p = [] := by
  have hnone : rs.filter (·.range.start == p) = [] :=
    List.filter_eq_nil_iff.2 fun r hr => by simpa using h r hr
  rw [putAt, hnone, List.flatMap_nil]

theorem putAt_cons (r : Replacement) (rs : List Replacement) (p : Nat) :
    putAt (r :: rs) p = (if r.range.start = p then r.new else []) ++ putAt rs p := by
  by_cases h : r.range.start = p <;> simp [putAt, h]

theorem covers_cons (r : Replacement) (rs : List Replacement) (p : Nat) :
    covers (r :: rs) p = ((r.range.start ≤ p && p < r.range.stop) || covers rs p) := rfl

theorem covers_eq_false (h : ∀ r ∈ rs, p < r.range.start) : covers rs p = false := by
  refine List.any_eq_false.2 fun r hr => ?_
  have := h r hr
  simp
  omega

theorem replaceAll_nil (p : Nat) (c : Content) : replaceAll [] p c = c := by
  induction c generalizing p with
  | nil => rfl
  | cons s c ih => simp [replaceAll, putAt, covers, ih]

theorem replaceAll_before {a : Content} (h : ∀ r ∈ rs, p + a.length ≤ r.range.start)
    (b : Content) : replaceAll rs p (a ++ b) = a ++ replaceAll rs (p + a.length) b := by
  induction a generalizing p with
  | nil => rfl
  | cons s a ih =>
    rw [List.length_cons] at h ⊢
    have hput : putAt rs p = [] := putAt_eq_nil fun r hr => by have := h r hr; omega
    have hcovers : covers rs p = false := covers_eq_false fun r hr => by have := h r hr; omega
    have hrest := @ih (p + 1) fun r hr => by have := h r hr; omega
    rw [List.cons_append, replaceAll, hput, hcovers, hrest, Nat.add_comm a.length, ← Nat.add_assoc]
    rfl

theorem replaceAll_behind (hstart : r.range.start < p) (hstop : r.range.stop ≤ p) (c : Content) :
    replaceAll (r :: rs) p c = replaceAll rs p c := by
  have hput : ∀ p, r.range.start < p → putAt (r :: rs) p = putAt rs p := by
    intro p hp
    rw [putAt_cons, if_neg (by omega), List.nil_append]
  induction c generalizing p with
  | nil => exact hput p hstart
  | cons s c ih =>
    have hcovers : covers (r :: rs) p = covers rs p := by
      rw [covers_cons]
      simp
      omega
    rw [replaceAll, replaceAll, hput p hstart, hcovers, ih (by omega) (by omega)]

theorem replaceAll_within {x : Content} (hstart : r.range.start < p)
    (hstop : r.range.stop = p + x.length) (h : ∀ r' ∈ rs, r.range.stop ≤ r'.range.start)
    (b : Content) : replaceAll (r :: rs) p (x ++ b) = replaceAll rs r.range.stop b := by
  induction x generalizing p with
  | nil =>
    rw [List.length_nil, Nat.add_zero] at hstop
    rw [List.nil_append, hstop]
    exact replaceAll_behind hstart (by omega) b
  | cons s x ih =>
    rw [List.length_cons] at hstop
    have hput : putAt (r :: rs) p = [] := by
      refine putAt_eq_nil fun r' hr' => ?_
      rcases List.mem_cons.1 hr' with rfl | hr'
      · omega
      · have := h r' hr'
        omega
    have hcovers : covers (r :: rs) p = true := by
      rw [covers_cons]
      simp
      omega
    rw [List.cons_append, replaceAll, hput, hcovers, ih (by omega) (by omega)]
    rfl

theorem replaceAll_at {x : Content} (hstart : r.range.start = p)
    (hstop : r.range.stop = p + x.length) (h : ∀ r' ∈ rs, r.range.stop ≤ r'.range.start)
    (b : Content) :
    replaceAll (r :: rs) p (x ++ b) = r.new ++ replaceAll rs r.range.stop b := by
  have hput : putAt (r :: rs) p = r.new ++ putAt rs p := by rw [putAt_cons, if_pos hstart]
  cases x with
  | nil =>
    rw [List.length_nil, Nat.add_zero] at hstop
    rw [List.nil_append, hstop]
    cases b with
    | nil => exact hput
    | cons s b =>
      have hcovers : covers (r :: rs) p = covers rs p := by
        rw [covers_cons]
        simp
        omega
      rw [replaceAll, replaceAll, hput, hcovers, replaceAll_behind (by omega) (by omega),
        List.append_assoc]
  | cons s x =>
    rw [List.length_cons] at hstop
    have hnone : putAt rs p = [] := putAt_eq_nil fun r' hr' => by have := h r' hr'; omega
    have hcovers : covers (r :: rs) p = true := by
      rw [covers_cons]
      simp
      omega
    rw [List.cons_append, replaceAll, hput, hnone, hcovers,
      replaceAll_within (by omega) (by omega) h, List.append_nil]
    rfl

/-- The first of several replacements, the others being behind it. -/
theorem replaceAll_cons {a x : Content} (hstart : r.range.start = p + a.length)
    (hstop : r.range.stop = r.range.start + x.length)
    (h : ∀ r' ∈ rs, r.range.stop ≤ r'.range.start) (b : Content) :
    replaceAll (r :: rs) p (a ++ (x ++ b)) = a ++ (r.new ++ replaceAll rs r.range.stop b) := by
  have hbefore : ∀ r' ∈ r :: rs, p + a.length ≤ r'.range.start := by
    intro r' hr'
    rcases List.mem_cons.1 hr' with rfl | hr'
    · omega
    · have := h r' hr'
      omega
  rw [replaceAll_before hbefore, ← hstart, replaceAll_at rfl hstop h]

/-- Replacements that start at different places may be listed in any order. -/
theorem replaceAll_perm (hperm : rs.Perm rs')
    (hstarts : rs.Pairwise fun a b => a.range.start ≠ b.range.start) (p : Nat) (c : Content) :
    replaceAll rs p c = replaceAll rs' p c := by
  have hput : ∀ p, putAt rs p = putAt rs' p := by
    intro p
    have hfilter := hperm.filter (·.range.start == p)
    have hdistinct : (rs.filter (·.range.start == p)).Pairwise fun _ _ => False :=
      (hstarts.filter _).imp_of_mem fun ha hb hne => by
        have ha' := (List.mem_filter.1 ha).2
        have hb' := (List.mem_filter.1 hb).2
        exact hne ((beq_iff_eq.1 ha').trans (beq_iff_eq.1 hb').symm)
    -- At most one replacement starts at `p`, and such a list has only one order.
    have heq : rs.filter (·.range.start == p) = rs'.filter (·.range.start == p) :=
      List.Perm.eq_of_pairwise (fun _ _ _ _ h => h.elim) hdistinct
        (hfilter.pairwise hdistinct fun h => h) hfilter
    rw [putAt, putAt, heq]
  have hcovers : ∀ p, covers rs p = covers rs' p := fun p => hperm.any_eq
  induction c generalizing p with
  | nil => exact hput p
  | cons s c ih => rw [replaceAll, replaceAll, hput, hcovers, ih]

end

theorem carryOut_eq_foldlM (rs : List Request) (c : Content) :
    carryOut rs c = rs.foldlM applyRequest c := by
  induction rs generalizing c with
  | nil => rfl
  | cons r rs ih =>
    rw [carryOut, List.foldlM_cons]
    exact congrArg _ (funext ih)

theorem exists_split {i j : Nat} {c : Content} (hij : i ≤ j) (hj : j ≤ c.length) :
    ∃ a x b, c = a ++ (x ++ b) ∧ a.length = i ∧ x.length = j - i :=
  ⟨c.take i, (c.drop i).take (j - i), (c.drop i).drop (j - i),
    by rw [List.take_append_drop, List.take_append_drop], by simp; omega, by simp; omega⟩

/-- Requests for one range after the other, the last one first. Each of them sees its own range and
all before it as they were, so in the end all replacements are made. -/
theorem foldlM_replaceAll {α : Type} {step : Content → Request → Option Content} {xs : List α}
    {change : α → Replacement} {requests : α → List Request} {p : Nat} {before c : Content}
    (horder : xs.Pairwise fun x y => (change x).range.stop ≤ (change y).range.start)
    (hinside : ∀ x ∈ xs, p ≤ (change x).range.start ∧
      (change x).range.start ≤ (change x).range.stop ∧ (change x).range.stop ≤ p + c.length)
    (hrequests : ∀ x ∈ xs, ∀ before old after : Content,
      before.length + 1 = (change x).range.start →
      (change x).range.stop = (change x).range.start + old.length →
      (requests x).foldlM step (before ++ old ++ after) = some (before ++ (change x).new ++ after))
    (hp : before.length + 1 = p) (after : Content) :
    (xs.reverse.flatMap requests).foldlM step (before ++ c ++ after) =
      some (before ++ replaceAll (xs.map change) p c ++ after) := by
  induction xs generalizing p before c with
  | nil => simp [replaceAll_nil]
  | cons x xs ih =>
    rw [List.pairwise_cons] at horder
    rw [List.forall_mem_cons] at hinside hrequests
    obtain ⟨⟨hle, hlt, hend⟩, hrest⟩ := hinside
    obtain ⟨a, old, b, rfl, ha, hold⟩ := exists_split (c := c)
      (Nat.sub_le_sub_right hlt p) (Nat.sub_le_iff_le_add'.2 hend)
    have hstart : (change x).range.start = p + a.length := by omega
    have hstop : (change x).range.stop = (change x).range.start + old.length := by omega
    -- The later ranges are in `b`, in front of which nothing has changed yet.
    have hlater := @ih (change x).range.stop (before ++ a ++ old) b horder.2
      (fun y hy => by
        have h1 := horder.1 y hy
        have h2 := hrest y hy
        simp only [List.length_append] at h2
        omega)
      hrequests.2 (by simp only [List.length_append]; omega)
    have hfirst := hrequests.1 (before ++ a) old
      (replaceAll (xs.map change) (change x).range.stop b ++ after)
      (by rw [List.length_append]; omega) hstop
    have hall := @replaceAll_cons (change x) (xs.map change) p a old hstart hstop
      (fun r hr => by
        obtain ⟨y, hy, rfl⟩ := List.mem_map.1 hr
        exact horder.1 y hy) b
    rw [List.reverse_cons, List.flatMap_append, List.flatMap_singleton, List.foldlM_append,
      List.map_cons, hall]
    simp only [List.append_assoc] at hlater hfirst ⊢
    rw [hlater]
    exact hfirst

end Folio.Remote
