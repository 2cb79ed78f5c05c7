import Mathlib.Data.List.Forall2
import Folio.Proofs.Remote.Grid
import Folio.Proofs.Table.Outline
import Folio.Proofs.Table.Selection
/-!
Plans and the tables of a snapshot. Tables are paired in order, and no planned table is passed over:
if the pairs are made, every placed plan has a table of its shape, and there is no other table
(`pairTables_paired`).
-/
set_option autoImplicit false

namespace Folio

variable {plans us : List TablePlan} {pairs : List (TablePlan × Snapshot.Table)} {s : Snapshot}

theorem matchPlans_cons {ordinal : Nat} {table : Snapshot.Table}
    {checked : List (Nat × Snapshot.Table)}
    (h : matchPlans plans ((ordinal, table) :: checked) = .ok pairs) :
    (plans.find? (·.ordinal == ordinal) = none ∧ matchPlans plans checked = .ok pairs) ∨
      ∃ plan rest, plans.find? (·.ordinal == ordinal) = some plan ∧
        checkShape plan table = .ok () ∧ matchPlans plans checked = .ok rest ∧
        pairs = (plan, table) :: rest := by
  rw [matchPlans] at h
  split at h
  · rename_i hfind
    exact .inl ⟨hfind, h⟩
  · rename_i plan hfind
    cases hcheck : checkShape plan table with
    | error e =>
      rw [hcheck] at h
      cases h
    | ok u =>
      cases hrest : matchPlans plans checked with
      | error e =>
        rw [hcheck, hrest] at h
        cases h
      | ok rest =>
        rw [hcheck, hrest] at h
        cases h
        exact .inr ⟨plan, rest, hfind, hcheck, rfl, rfl⟩

theorem matchPlans_sublist {checked : List (Nat × Snapshot.Table)}
    (h : matchPlans plans checked = .ok pairs) :
    (pairs.map (·.2)).Sublist (checked.map (·.2)) := by
  induction checked generalizing pairs with
  | nil =>
    cases h
    exact .slnil
  | cons pair checked ih =>
    rcases matchPlans_cons h with ⟨-, h⟩ | ⟨plan, rest, -, -, hrest, rfl⟩
    · exact (ih h).cons _
    · exact (ih hrest).cons_cons _

theorem pairTables_sublist {placed : List Nat} (h : pairTables s plans placed = .ok pairs) :
    (pairs.map (·.2)).Sublist s.tables := by
  unfold pairTables at h
  dsimp only at h
  split at h
  · rename_i hlen
    have hsub := matchPlans_sublist h
    rwa [List.map_snd_zip (by omega)] at hsub
  · cases h

/-- Each of some plans has a table of its shape, and these are all the tables of a snapshot. -/
structure Paired (us : List TablePlan) (s : Snapshot) (pairs : List (TablePlan × Snapshot.Table)) :
    Prop where
  plans : pairs.map (·.1) = us
  tables : pairs.map (·.2) = s.tables
  shape : ∀ pair ∈ pairs, checkShape pair.1 pair.2 = .ok ()

theorem matchPlans_zip (hplans : Numbered plans) {tables : List Snapshot.Table}
    (hus : ∀ plan ∈ us, plan ∈ plans) (hlen : tables.length = us.length)
    (h : matchPlans plans ((us.map (·.ordinal)).zip tables) = .ok pairs) :
    pairs = us.zip tables ∧ ∀ pair ∈ pairs, checkShape pair.1 pair.2 = .ok () := by
  induction us generalizing tables pairs with
  | nil =>
    cases h
    exact ⟨rfl, List.forall_mem_nil _⟩
  | cons u us ih =>
    rw [List.forall_mem_cons] at hus
    cases tables with
    | nil => cases hlen
    | cons table tables =>
      rw [List.map_cons, List.zip_cons_cons] at h
      rcases matchPlans_cons h with ⟨hfind, -⟩ | ⟨plan, rest, hfind, hcheck, hrest, rfl⟩
      · rw [hplans.find? hus.1] at hfind
        cases hfind
      · rw [hplans.find? hus.1] at hfind
        cases hfind
        obtain ⟨rfl, hshape⟩ := ih hus.2 (Nat.succ.inj hlen) hrest
        exact ⟨rfl, List.forall_mem_cons.2 ⟨hcheck, hshape⟩⟩

theorem checkShape_of_outline {plan : TablePlan} {table : Snapshot.Table} {position : Nat}
    (hrows : 1 ≤ plan.rows)
    (h : table.outline = Remote.blankTableAt position plan.rows plan.columns) :
    checkShape plan table = .ok () := by
  have hshape : table.shape = (plan.rows, plan.columns) := by
    rw [← table.shape_outline, h, Remote.shape_blankTableAt _ _ hrows]
  rw [checkShape, hshape]
  exact if_pos ⟨rfl, rfl⟩

theorem matchPlans_eq_zip (hplans : Numbered plans) {tables : List Snapshot.Table}
    (hus : ∀ plan ∈ us, plan ∈ plans)
    (hshape : List.Forall₂ (fun plan table => checkShape plan table = .ok ()) us tables) :
    matchPlans plans ((us.map (·.ordinal)).zip tables) = .ok (us.zip tables) := by
  induction hshape with
  | nil => rfl
  | @cons u table us tables hcheck _ ih =>
    rw [List.forall_mem_cons] at hus
    simp only [List.map_cons, List.zip_cons_cons, matchPlans, hplans.find? hus.1, hcheck, ih hus.2]
    rfl

theorem pairTables_eq_zip (hplans : Numbered plans) (hus : us.Sublist plans)
    (hshape : List.Forall₂ (fun plan table => checkShape plan table = .ok ()) us s.tables) :
    pairTables s plans (us.map (·.ordinal)) = .ok (us.zip s.tables) := by
  unfold pairTables
  rw [if_pos (by rw [List.length_map, hshape.length_eq])]
  exact matchPlans_eq_zip hplans (fun _ hu => hus.mem hu) hshape

/-- No ordinal that has been placed is without a plan, so none is passed over. -/
theorem pairTables_paired (hplans : Numbered plans) (hus : us.Sublist plans)
    (h : pairTables s plans (us.map (·.ordinal)) = .ok pairs) : Paired us s pairs := by
  unfold pairTables at h
  dsimp only at h
  split at h
  · rename_i hlen
    rw [List.length_map] at hlen
    obtain ⟨rfl, hshape⟩ := matchPlans_zip hplans (fun _ hu => hus.mem hu) hlen h
    exact ⟨List.map_fst_zip (by omega), List.map_snd_zip (by omega), hshape⟩
  · cases h

end Folio
