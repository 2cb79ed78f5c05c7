import Folio.Proofs.Export.Shape
import Folio.Proofs.Remote.Reading
import Folio.Proofs.Table.Pairing
/-!
What the numbers in a report mean, whoever has answered and however. Every planned table is
accounted for: it is either filled or counted as lost, with a warning (`exportMarkdown_accounting`).
-/
set_option autoImplicit false

namespace Folio

open Process Exchange

namespace TableOutcome

def lost : TableOutcome → Nat
  | .partly expected completed _ => expected - completed
  | _ => 0

def problems : TableOutcome → List TableError
  | .partly _ _ problems => problems
  | _ => []

end TableOutcome

/-- What can have become of the tables that were planned for a document. All of them are written
only if each was paired with a table of its shape in the document as it was fetched for that. -/
inductive Settled (document : String) (plans : List TablePlan) (t : List Exchange) :
    TableOutcome → Prop where
  | unplanned (h : plans = []) : Settled document plans t .none
  | complete (before after : List Exchange) {s : Snapshot}
      {pairs : List (TablePlan × Snapshot.Table)} (h : plans ≠ [])
      (fetch : t = before ++ entered .populatingTables :: fetched document (.ok s) :: after)
      (paired : Paired plans s pairs) : Settled document plans t (.complete plans.length)
  | partly {completed : Nat} {problems : List TableError} (h : completed < plans.length)
      (trouble : problems ≠ []) :
    Settled document plans t (.partly plans.length completed problems)

section

variable {document fingerprint : String} {plans : List TablePlan} {t : List Exchange}

theorem Settled.within {outcome : TableOutcome} (h : Settled document plans t outcome)
    (front back : List Exchange) : Settled document plans (front ++ t ++ back) outcome := by
  cases h with
  | unplanned h => exact .unplanned h
  | @complete before after s pairs h fetch paired =>
    exact .complete (front ++ before) (after ++ back) h (by simp [fetch]) paired
  | partly h trouble => exact .partly h trouble

theorem placeSkeletons_divides {p : Placement}
    (h : (placeSkeletons document fingerprint plans).Runs t (.ok p)) : p.Divides plans := by
  obtain ⟨reply, t', hnext, rfl⟩ := runs_fetch_bind.1 h
  cases reply with
  | error e => cases (runs_pure.1 hnext).2
  | ok snapshot =>
    dsimp only at hnext
    split at hnext
    · cases (runs_pure.1 hnext).2
      exact Placement.divides_ofPlans plans
    · split at hnext
      · cases (runs_pure.1 hnext).2
      · obtain ⟨t₁, v, t₂, -, hrest, -⟩ := runs_bind.1 hnext
        cases v with
        | error e => cases (runs_pure.1 hrest).2
        | ok u =>
          cases (runs_pure.1 hrest).2
          exact (selectMarkers_selection _ plans).toDivides

theorem runs_commitBatch_ok {rs : List Edit.Request} :
    (commitBatch document rs).Runs t (.ok ()) ↔ t = structureBatch document rs := by
  unfold structureBatch
  constructor
  · intro h
    rcases runs_commitBatch h with ⟨rfl, rfl, -⟩ | ⟨hne, rfl, -⟩ | ⟨-, e, -, herror⟩
    · rfl
    · rw [if_neg hne]
    · cases herror
  · rintro rfl
    unfold commitBatch
    by_cases hrs : rs = []
    · simp [hrs]
    · have hempty : ¬rs.isEmpty = true := by simpa using hrs
      rw [if_neg hrs, if_neg hempty]
      exact runs_commit_bind.2 ⟨.ok (), [], .done _, rfl⟩

theorem runs_commitBatch_error {rs : List Edit.Request} {e : TableError} :
    (commitBatch document rs).Runs t (.error e) ↔
      rs ≠ [] ∧ ∃ source, t = [committed document rs (.error source)] ∧ e = .service source := by
  constructor
  · intro h
    rcases runs_commitBatch h with ⟨-, -, hok⟩ | ⟨-, -, hok⟩ | ⟨hne, source, rfl, he⟩
    · cases hok
    · cases hok
    · exact ⟨hne, source, rfl, Except.error.inj he⟩
  · rintro ⟨hne, source, rfl, rfl⟩
    unfold commitBatch
    rw [if_neg (by simpa using hne)]
    exact runs_commit_bind.2 ⟨.error source, [], .done _, rfl⟩

/-- The runs in which filling succeeds: the tables of the snapshot are paired, and what is to be
written into them has been accepted. -/
theorem runs_populateTables_ok {placed : List Nat} {population : Population} :
    (populateTables document plans placed).Runs t (.ok population) ↔
      ∃ s pairs, pairTables s plans placed = .ok pairs ∧
        t = fetched document (.ok s) :: structureBatch document (populationRequests pairs) ∧
        population = ⟨pairs.length, (populationRequests pairs).length⟩ := by
  constructor
  · intro h
    obtain ⟨reply, t', hnext, rfl⟩ := runs_fetch_bind.1 h
    cases reply with
    | error e => cases (runs_pure.1 hnext).2
    | ok s =>
      dsimp only at hnext
      split at hnext
      · cases (runs_pure.1 hnext).2
      · rename_i pairs hpairs
        obtain ⟨t₁, v, t₂, hbatch, hrest, rfl⟩ := runs_bind.1 hnext
        cases v with
        | error e => cases (runs_pure.1 hrest).2
        | ok u =>
          obtain ⟨rfl, hpopulation⟩ := runs_pure.1 hrest
          rw [runs_commitBatch_ok.1 hbatch, List.append_nil]
          exact ⟨s, pairs, hpairs, rfl, Except.ok.inj hpopulation⟩
  · rintro ⟨s, pairs, hpairs, rfl, rfl⟩
    refine runs_fetch_bind.2 ⟨.ok s, _, ?_, rfl⟩
    dsimp only
    rw [hpairs]
    exact runs_bind.2 ⟨_, .ok (), [], runs_commitBatch_ok.2 rfl, .done _, by simp⟩

theorem fillPlaced_counts (hplans : Numbered plans) {p : Placement} (hp : p.Divides plans)
    {completed : Nat} {trouble : List TableError}
    (h : (fillPlaced document plans p.placed).Runs t (completed, trouble)) :
    (completed = 0 ∧ (p.placed = [] ∨ trouble ≠ [])) ∨
      (completed = p.placed.length ∧ trouble = [] ∧ ∃ us s pairs t', us.Sublist plans ∧
        us.map (·.ordinal) = p.placed ∧ t = fetched document (.ok s) :: t' ∧
        Paired us s pairs) := by
  unfold fillPlaced at h
  split at h
  · rename_i hempty
    cases (runs_pure.1 h).2
    exact .inl ⟨rfl, .inl (by simpa using hempty)⟩
  · obtain ⟨t₁, v, t₂, hrun, hrest, rfl⟩ := runs_bind.1 h
    cases v with
    | error e =>
      cases (runs_pure.1 hrest).2
      exact .inl ⟨rfl, .inr (List.cons_ne_nil _ _)⟩
    | ok population =>
      cases (runs_pure.1 hrest).2
      obtain ⟨us, hus, hplaced⟩ := List.sublist_map_iff.1 hp.sublist
      obtain ⟨s, pairs, hpairs, rfl, rfl⟩ := runs_populateTables_ok.1 hrun
      rw [hplaced] at hpairs
      have hpaired := pairTables_paired hplans hus hpairs
      have hlen := congrArg List.length hpaired.plans
      rw [List.length_map] at hlen
      refine .inr ⟨?_, rfl, us, s, pairs, _, hus, hplaced.symm, rfl, hpaired⟩
      rw [hplaced, List.length_map]
      exact hlen

theorem Placement.problems_eq_nil_iff {p : Placement} {expected : Nat} :
    p.problems expected = [] ↔ p.isComplete := by
  simp only [Placement.problems, Placement.isComplete, List.append_eq_nil_iff, Bool.and_eq_true]
  cases p.missing <;> cases p.nested <;> cases p.ambiguous <;> simp

theorem tableFailure_eq_ok {strict : Bool} {expected completed : Nat} {problems : List TableError}
    {outcome : TableOutcome}
    (h : tableFailure strict document expected completed problems = .ok outcome) :
    outcome = .partly expected completed problems := by
  unfold tableFailure at h
  split at h
  · cases h
  · cases h
    rfl

theorem materialize_settled (hplans : Numbered plans) (hne : plans ≠ []) {strict : Bool}
    {outcome : TableOutcome}
    (h : (materialize strict document fingerprint plans).Runs t (.ok outcome)) :
    Settled document plans t outcome := by
  have hpos : 0 < plans.length := List.length_pos_iff.2 hne
  obtain ⟨t', hnext, rfl⟩ := runs_enter_bind.1 h
  obtain ⟨t₁, v, t₂, hplace, hrest, rfl⟩ := runs_bind.1 hnext
  cases v with
  | error e =>
    rw [tableFailure_eq_ok (runs_pure.1 hrest).2.symm]
    exact .partly hpos (List.cons_ne_nil _ _)
  | ok p =>
    have hp := placeSkeletons_divides hplace
    obtain ⟨t₃, hafter, rfl⟩ := runs_enter_bind.1 hrest
    obtain ⟨t₄, ⟨completed, trouble⟩, t₅, hfill, hend, rfl⟩ := runs_bind.1 hafter
    have hcounts := fillPlaced_counts hplans hp hfill
    have hle : p.placed.length ≤ plans.length := by
      have hcount := hp.partition
      omega
    dsimp only at hend
    split at hend
    · rename_i hnone
      cases (runs_pure.1 hend).2
      rw [List.isEmpty_iff, List.append_eq_nil_iff, Placement.problems_eq_nil_iff] at hnone
      have hplaced := hp.placed_eq hnone.1
      rcases hcounts with ⟨-, hnil | htrouble⟩ | ⟨rfl, -, us, s, pairs, t', hus, hus', rfl, hpaired⟩
      · rw [hplaced, List.map_eq_nil_iff] at hnil
        exact absurd hnil hne
      · exact absurd hnone.2 htrouble
      · have hlen := congrArg List.length (hus'.trans hplaced)
        rw [List.length_map, List.length_map] at hlen
        have hall : us = plans := hus.eq_of_length hlen
        rw [hp.isComplete_iff.1 hnone.1]
        exact .complete (entered .materializingTables :: t₁) (t' ++ t₅) hne
          (by simp) (hall ▸ hpaired)
    · rename_i hsome
      rw [List.isEmpty_iff] at hsome
      rw [tableFailure_eq_ok (runs_pure.1 hend).2.symm]
      refine .partly ?_ hsome
      -- Either nothing was filled, or all that was placed, and then some table was not placed.
      rcases hcounts with ⟨rfl, -⟩ | ⟨rfl, rfl, -⟩
      · exact hpos
      · rw [List.append_nil, ← ne_eq, Ne, Placement.problems_eq_nil_iff, hp.isComplete_iff] at hsome
        omega

theorem writeDocument_settled {s : ExportSettings} {title : String} {doc : Document} {draft : Draft}
    (hplans : Numbered draft.plans) {failures : List AssetFailure} {r : ExportReport}
    (h : (writeDocument s title doc draft failures).Runs t (.ok r)) :
    r = report r.documentId failures r.tables ∧
      Settled r.documentId draft.plans t r.tables := by
  have hreport : ∀ document outcome, (report document failures outcome).documentId = document ∧
      (report document failures outcome).tables = outcome := by
    intro document outcome
    cases outcome <;> exact ⟨rfl, rfl⟩
  obtain ⟨reply, t', hnext, rfl⟩ := runs_create_bind.1 h
  cases reply with
  | error e => cases (runs_pure.1 hnext).2
  | ok document =>
    rcases runs_structureBatch hnext with ⟨t₁, hrest, rfl⟩ | ⟨-, e, t₁, hrest, rfl⟩
    · dsimp only at hrest
      split at hrest
      · rename_i hempty
        cases (runs_pure.1 hrest).2
        exact ⟨rfl, .unplanned (by simpa using hempty)⟩
      · rename_i hempty
        obtain ⟨t₂, v, t₃, hrun, hend, rfl⟩ := runs_bind.1 hrest
        cases v with
        | error e => cases (runs_pure.1 hend).2
        | ok outcome =>
          obtain ⟨rfl, heq⟩ := runs_pure.1 hend
          cases heq
          have hsettled := materialize_settled hplans (by simpa using hempty) hrun
          rw [(hreport document outcome).1, (hreport document outcome).2]
          have hall := hsettled.within (created title (.ok document) ::
            structureBatch document draft.requests) []
          rw [List.append_assoc] at hall
          exact ⟨rfl, hall⟩
    · cases (runs_pure.1 hrest).2

/-- The report of a run in which some tables were planned and some pictures failed. -/
structure Accounting (plans : List TablePlan) (failures : List AssetFailure) (t : List Exchange)
    (r : ExportReport) : Prop where
  none_iff : r.tables = .none ↔ plans = []
  complete : ∀ tables, r.tables = .complete tables → tables = plans.length ∧
    ∃ before s after pairs,
      t = before ++ entered .populatingTables :: fetched r.documentId (.ok s) :: after ∧
        Paired plans s pairs
  partly : ∀ expected completed problems, r.tables = .partly expected completed problems →
    expected = plans.length ∧ completed < expected ∧ problems ≠ []
  degraded : r.degraded = failures.length + r.tables.lost
  warnings : r.warnings.length = failures.length + r.tables.problems.length
  degraded_iff : r.degraded = 0 ↔ r.warnings = []
  warnings_iff : r.warnings = [] ↔ failures = [] ∧ r.tables.isDegraded = false

theorem Settled.accounting {outcome : TableOutcome} (h : Settled document plans t outcome)
    (failures : List AssetFailure) :
    Accounting plans failures t (report document failures outcome) := by
  cases h with
  | unplanned h =>
    refine ⟨by simp [report, h], by simp [report], by simp [report], rfl, ?_, ?_, ?_⟩ <;>
      simp [report, TableOutcome.problems, TableOutcome.isDegraded]
  | @complete before after s pairs h fetch paired =>
    refine ⟨by simp [report, h], ?_, by simp [report], rfl, ?_, ?_, ?_⟩
    · rintro tables ⟨⟩
      exact ⟨rfl, before, s, after, pairs, fetch, paired⟩
    all_goals simp [report, TableOutcome.problems, TableOutcome.isDegraded]
  | @partly completed problems h trouble =>
    have hne : plans ≠ [] := List.ne_nil_of_length_pos (by omega)
    refine ⟨by simp [report, hne], by simp [report], ?_, rfl, ?_, ?_, ?_⟩
    · rintro expected completed problems ⟨⟩
      exact ⟨rfl, h, trouble⟩
    · simp [report, TableOutcome.problems]
    · simp [report, trouble]
      omega
    · simp [report, trouble, TableOutcome.isDegraded]

/-- In the report of any run the tables are those that the draft has planned, none of them is lost
unseen, and the report is a clean one exactly if nothing has gone wrong. -/
theorem exportMarkdown_accounting [Markdown.Parser] {s : ExportSettings} {markdown title : String}
    {r : ExportReport}
    (h : (exportMarkdown s markdown title).Runs t (.ok r)) :
    ∃ pictures resolved rest,
      ((Document.ofMarkdown markdown).resolve s.style s.options).Runs pictures resolved ∧
        t = entered .resolvingAssets :: (pictures ++ entered .emitting :: rest) ∧
        Accounting ((Document.ofMarkdown markdown).compile resolved.map s.options).plans
          resolved.failures rest r := by
  obtain ⟨t', hbody, rfl⟩ := exportMarkdown_runs h
  obtain ⟨pictures, resolved, writing, hpictures, hwriting, rfl⟩ := exportBody_parts hbody
  have hplans := numbered_compile (Document.ofMarkdown markdown) resolved.map s.options
  obtain ⟨hreport, hsettled⟩ := writeDocument_settled hplans hwriting
  have haccounting := (hsettled.within [entered .committingStructure]
    [entered (terminalState (.ok r))]).accounting resolved.failures
  rw [← hreport] at haccounting
  exact ⟨pictures, resolved, _, hpictures, by simp, haccounting⟩

end

theorem accounting_oneTable :
    ∃ (t pictures rest : List Exchange) (resolved : ResolvedAssets),
      (exportMarkdown plainSettings "| A |\n|---|" "Report").Runs t (.ok oneTableReport) ∧
        t = entered .resolvingAssets :: (pictures ++ entered .emitting :: rest) ∧
        Accounting ((Document.ofMarkdown "| A |\n|---|").compile resolved.map .default).plans
          resolved.failures rest oneTableReport := by
  obtain ⟨pictures, resolved, rest, -, ht, haccounting⟩ := exportMarkdown_accounting runs_oneTable
  exact ⟨_, pictures, rest, resolved, runs_oneTable, ht, haccounting⟩

end Folio
