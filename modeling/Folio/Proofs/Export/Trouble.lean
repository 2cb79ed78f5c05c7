import Folio.Proofs.Table.Placing
import Folio.Proofs.Table.Retry
/-!
The problems with markers that an export tells of. Every problem comes from one call of placing, or
from the filling behind it (`exportMarkdown_trouble`). A marker inside a table is never told of as
nested (`nestedMarker_refused`), and the number of missing markers is never too large, but it is
right only if no table was in the document (`placeholderMissing_count`).
-/
set_option autoImplicit false

namespace Folio

open Edit Remote Process Exchange

def ExportError.tableError? : ExportError → Option TableError
  | .tables _ e => some e
  | _ => none

/-- The table errors that a result tells of, as an error or among its problems. -/
def told {α : Type} (problems : α → List TableError) : Except ExportError α → List TableError
  | .ok a => problems a
  | .error e => e.tableError?.toList

def ExportReport.problems (r : ExportReport) : List TableError := r.tables.problems

/-- What can go wrong with the tables of a document, behind the call that placed them. -/
inductive Trouble (document fingerprint : String) (plans : List TablePlan) (t : List Exchange) :
    TableError → Prop where
  | unplaced {e : TableError} (h : Placing document fingerprint plans t (.error e)) :
    Trouble document fingerprint plans t e
  | incomplete {p : Placement} {e : TableError} (h : Placing document fingerprint plans t (.ok p))
      (he : e ∈ p.problems plans.length) : Trouble document fingerprint plans t e
  | unfilled {p : Placement} {t' : List Exchange} {e : TableError}
      (h : Placing document fingerprint plans t (.ok p))
      (h' : (populateTables document plans p.placed).Runs t' (.error e)) :
    Trouble document fingerprint plans t e

section

variable {document fingerprint : String} {plans : List TablePlan} {t : List Exchange}
  {e : TableError}

theorem told_tableFailure {strict : Bool} {expected completed : Nat} {problems : List TableError}
    (h : e ∈ told TableOutcome.problems
      (tableFailure strict document expected completed problems)) : e ∈ problems := by
  unfold tableFailure at h
  split at h
  · rw [List.mem_singleton.1 h]
    exact List.mem_cons_self
  · exact h

theorem fillPlaced_trouble {placed : List Nat} {completed : Nat} {trouble : List TableError}
    (h : (fillPlaced document plans placed).Runs t (completed, trouble)) (he : e ∈ trouble) :
    (populateTables document plans placed).Runs t (.error e) := by
  unfold fillPlaced at h
  split at h
  · cases (runs_pure.1 h).2
    cases he
  · obtain ⟨t₁, v, t₂, hrun, hrest, rfl⟩ := runs_bind.1 h
    cases v with
    | ok population =>
      cases (runs_pure.1 hrest).2
      cases he
    | error e' =>
      obtain ⟨rfl, heq⟩ := runs_pure.1 hrest
      cases heq
      rw [List.mem_singleton.1 he, List.append_nil]
      exact hrun

theorem materialize_trouble {strict : Bool} {r : Except ExportError TableOutcome}
    (h : (materialize strict document fingerprint plans).Runs t r)
    (he : e ∈ told TableOutcome.problems r) :
    ∃ t₁ t₂, t = entered .materializingTables :: (t₁ ++ t₂) ∧
      Trouble document fingerprint plans t₁ e := by
  obtain ⟨t', hnext, rfl⟩ := runs_enter_bind.1 h
  obtain ⟨t₁, v, t₂, hplace, hrest, rfl⟩ := runs_bind.1 hnext
  refine ⟨t₁, t₂, rfl, ?_⟩
  cases v with
  | error e' =>
    rw [(runs_pure.1 hrest).2] at he
    rw [List.mem_singleton.1 (told_tableFailure he)]
    exact .unplaced (placing_of_runs hplace)
  | ok p =>
    obtain ⟨t₃, hafter, rfl⟩ := runs_enter_bind.1 hrest
    obtain ⟨t₄, ⟨completed, trouble⟩, t₅, hfill, hend, rfl⟩ := runs_bind.1 hafter
    have hmem : e ∈ p.problems plans.length ++ trouble := by
      dsimp only at hend
      split at hend
      · rw [(runs_pure.1 hend).2] at he
        cases he
      · rw [(runs_pure.1 hend).2] at he
        exact told_tableFailure he
    rcases List.mem_append.1 hmem with hproblem | htrouble
    · exact .incomplete (placing_of_runs hplace) hproblem
    · exact .unfilled (placing_of_runs hplace) (fillPlaced_trouble hfill htrouble)

theorem told_report (failures : List AssetFailure) (outcome : TableOutcome) :
    (report document failures outcome).problems = outcome.problems := by
  cases outcome <;> rfl

theorem writeDocument_trouble {s : ExportSettings} {title : String} {doc : Document} {draft : Draft}
    {failures : List AssetFailure} {r : Except ExportError ExportReport}
    (h : (writeDocument s title doc draft failures).Runs t r)
    (he : e ∈ told ExportReport.problems r) :
    ∃ document before t₁ t₂, t = before ++ entered .materializingTables :: (t₁ ++ t₂) ∧
      Trouble document doc.fingerprint draft.plans t₁ e := by
  obtain ⟨reply, t', hnext, rfl⟩ := runs_create_bind.1 h
  cases reply with
  | error e' =>
    rw [(runs_pure.1 hnext).2] at he
    cases he
  | ok document =>
    rcases runs_structureBatch hnext with ⟨t₁, hrest, rfl⟩ | ⟨-, e', t₁, hrest, rfl⟩
    · dsimp only at hrest
      split at hrest
      · rw [(runs_pure.1 hrest).2] at he
        cases he
      · obtain ⟨t₂, v, t₃, hrun, hend, rfl⟩ := runs_bind.1 hrest
        have htold : e ∈ told TableOutcome.problems v := by
          cases v with
          | error e' =>
            rw [(runs_pure.1 hend).2] at he
            exact he
          | ok outcome =>
            rw [(runs_pure.1 hend).2] at he
            rwa [told, told_report] at he
        obtain ⟨t₄, t₅, rfl, htrouble⟩ := materialize_trouble hrun htold
        exact ⟨document, created title (.ok document) :: structureBatch document draft.requests,
          t₄, t₅ ++ t₃, by simp, htrouble⟩
    · rw [(runs_pure.1 hrest).2] at he
      cases he

/-- Every table error of an export arises behind the entry of the table phases, from one call that
placed the tables of the draft. -/
theorem exportMarkdown_trouble [Markdown.Parser] {s : ExportSettings} {markdown title : String}
    {result : Except ExportError ExportReport}
    (h : (exportMarkdown s markdown title).Runs t result)
    (he : e ∈ told ExportReport.problems result) :
    ∃ pictures resolved document before t₁ after,
      ((Document.ofMarkdown markdown).resolve s.style s.options).Runs pictures resolved ∧
        t = entered .resolvingAssets :: (pictures ++ entered .emitting ::
          (before ++ entered .materializingTables :: (t₁ ++ after))) ∧
        Trouble document (Document.ofMarkdown markdown).fingerprint
          ((Document.ofMarkdown markdown).compile resolved.map s.options).plans t₁ e := by
  obtain ⟨t', hbody, rfl⟩ := exportMarkdown_runs h
  obtain ⟨pictures, resolved, writing, hpictures, hwriting, rfl⟩ := exportBody_parts hbody
  obtain ⟨document, before, t₁, t₂, rfl, htrouble⟩ := writeDocument_trouble hwriting he
  exact ⟨pictures, resolved, document, entered .committingStructure :: before, t₁,
    t₂ ++ [entered (terminalState result)], hpictures, by simp, htrouble⟩

theorem populateTables_error {placed : List Nat}
    (h : (populateTables document plans placed).Runs t (.error e)) :
    e.isMismatch ∨ ∃ source, e = .service source := by
  obtain ⟨reply, t', hnext, rfl⟩ := runs_fetch_bind.1 h
  cases reply with
  | error source =>
    cases (runs_pure.1 hnext).2
    exact .inr ⟨source, rfl⟩
  | ok s =>
    dsimp only at hnext
    split at hnext
    · rename_i hpairs
      cases (runs_pure.1 hnext).2
      exact .inl (pairTables_isMismatch hpairs)
    · obtain ⟨t₁, v, t₂, hbatch, hrest, rfl⟩ := runs_bind.1 hnext
      cases v with
      | ok u => cases (runs_pure.1 hrest).2
      | error e' =>
        cases (runs_pure.1 hrest).2
        obtain ⟨-, source, -, rfl⟩ := runs_commitBatch_error.1 hbatch
        exact .inr ⟨source, rfl⟩

/-- A table with a marker inside has a table around it, so nothing is sorted out. -/
theorem Placing.nested_eq_nil {p : Placement} (h : Placing document fingerprint plans t (.ok p)) :
    p.nested = [] := by
  cases h with
  | finished s h => rfl
  | @placed s h htables selected p hselected =>
    have hnested := listOf_selectMarkers (s.markers fingerprint) plans .nested
    rw [hselected] at hnested
    refine hnested.trans (List.filter_eq_nil_iff.2 fun i _ hi => ?_)
    obtain ⟨m, hm, hdepth⟩ := fateOf_eq_nested.1 (of_decide_eq_true hi)
    have hfound := (mem_markersOf (hm ▸ List.mem_singleton_self m)).1
    exact Snapshot.tables_ne_nil_of_depth hfound hdepth htables

theorem Trouble.ne_nestedUnsupported (h : Trouble document fingerprint plans t e)
    (ordinals : List Nat) : e ≠ .nestedUnsupported ordinals := by
  rintro rfl
  cases h with
  | unplaced h => cases h
  | @incomplete p _ h he =>
    have hnested := h.nested_eq_nil
    simp only [Placement.problems, hnested, List.isEmpty_nil, if_true, List.append_nil,
      List.mem_append] at he
    rcases he with he | he
    · split at he <;> simp at he
    · split at he <;> simp at he
  | unfilled h h' =>
    rcases populateTables_error h' with hmismatch | ⟨source, hservice⟩
    · cases hmismatch
    · cases hservice

/-- A marker inside a table stops the placing of all tables. Nothing is sent, and what is told is a
number of missing markers; no call of placing ever finds a nested one, and no export tells of one.
-/
theorem nestedMarker_refused [Markdown.Parser] (document fingerprint : String) (plans : List TablePlan) :
    (∀ (s : Snapshot), ∀ m ∈ s.markers fingerprint, 0 < m.depth →
      ∀ t r, (placeSkeletons document fingerprint plans).Runs (fetched document (.ok s) :: t) r ↔
        t = [] ∧ r = .error (.placeholderMissing plans.length
          (plans.length - (s.markers fingerprint).length))) ∧
    (∀ t p, (placeSkeletons document fingerprint plans).Runs t (.ok p) → p.nested = []) ∧
    ∀ settings markdown title t result,
      (exportMarkdown settings markdown title).Runs t result →
        ∀ ordinals, .nestedUnsupported ordinals ∉ told ExportReport.problems result := by
  refine ⟨fun s m hm hdepth t r => ?_, fun t p h => (placing_of_runs h).nested_eq_nil,
    fun settings markdown title t result h ordinals he => ?_⟩
  · have htables := Snapshot.tables_ne_nil_of_depth hm hdepth
    have hunfinished : ¬s.Finished fingerprint plans := fun h => by
      rw [h.1] at hm
      cases hm
    constructor
    · intro hrun
      cases placing_of_runs hrun with
      | finished _ h => exact absurd h hunfinished
      | refused _ _ _ => exact ⟨rfl, rfl⟩
      | uncommitted _ _ h _ _ => exact absurd h htables
      | placed _ _ h _ => exact absurd h htables
    · rintro ⟨rfl, rfl⟩
      exact (Placing.refused s hunfinished htables).runs
  · obtain ⟨_, _, _, _, _, _, -, -, htrouble⟩ := exportMarkdown_trouble h he
    exact htrouble.ne_nestedUnsupported ordinals rfl

def Document.markerInCell (doc : Document) (ordinal : Nat) : Content :=
  inLook .plain (.tableStart :: .rowStart :: .cellStart ::
    glyphsOf (placeholder doc.fingerprint ordinal ++ "\n") ++ .tableStop :: glyphsOf "\n")

def nestedSnapshot : Snapshot :=
  Service.reference.fetch "document" (oneTable.markerInCell 0)

theorem markers_nestedSnapshot :
    nestedSnapshot.markers oneTable.fingerprint = [⟨0, 4, 34, 1⟩] := by
  decide +kernel

theorem nestedMarker_refused_oneCell :
    ⟨0, 4, 34, 1⟩ ∈ nestedSnapshot.markers oneTable.fingerprint ∧
      oneTable.placeTables.Runs [fetched "document" (.ok nestedSnapshot)]
        (.error (.placeholderMissing 1 0)) := by
  have hm : ⟨0, 4, 34, 1⟩ ∈ nestedSnapshot.markers oneTable.fingerprint := by
    rw [markers_nestedSnapshot]
    exact List.mem_singleton_self _
  have h := (nestedMarker_refused "document" oneTable.fingerprint
    (oneTable.compile .empty .default).plans).1 _ _ hm Nat.one_pos [] (.error (.placeholderMissing 1 0))
  have hplans : (oneTable.compile .empty .default).plans.length = 1 := by decide +kernel
  refine ⟨hm, h.2 ⟨rfl, ?_⟩⟩
  rw [markers_nestedSnapshot, hplans]
  rfl

/-- The only marker of the only table is inside another table, and as nested it would be sorted out;
but what is told is that none of one markers is missing. -/
theorem nestedMarker_unflagged :
    nestedSnapshot.markers oneTable.fingerprint = [⟨0, 4, 34, 1⟩] ∧
      (selectMarkers (nestedSnapshot.markers oneTable.fingerprint)
        (oneTable.compile .empty .default).plans).2 = ⟨[], [], [0], []⟩ ∧
      (Service.reference.run oneTable.placeTables (oneTable.markerInCell 0)).1 =
        .error (.placeholderMissing 1 0) := by
  decide +kernel

/-- A number of missing markers that is told of a document as it was fetched. -/
structure MissingCount (s : Snapshot) (fingerprint : String) (plans : List TablePlan)
    (missing : Nat) : Prop where
  untabled : s.tables = [] →
    missing = (absent (s.markers fingerprint) plans.length).length ∧ 1 ≤ missing
  tabled : s.tables ≠ [] → ¬s.Finished fingerprint plans ∧
    missing = plans.length - (s.markers fingerprint).length
  le : missing ≤ (absent (s.markers fingerprint) plans.length).length
  exact_iff : missing = (absent (s.markers fingerprint) plans.length).length ↔
    s.tables = [] ∨ absent (s.markers fingerprint) plans.length = [] ∨
      (((s.markers fingerprint).map (·.ordinal)).Nodup ∧
        ∀ m ∈ s.markers fingerprint, m.ordinal < plans.length)

theorem missingCount_untabled {s : Snapshot} (htables : s.tables = [])
    (hne : absent (s.markers fingerprint) plans.length ≠ []) :
    MissingCount s fingerprint plans (absent (s.markers fingerprint) plans.length).length where
  untabled _ := ⟨rfl, List.length_pos_iff.2 hne⟩
  tabled h := absurd htables h
  le := Nat.le_refl _
  exact_iff := ⟨fun _ => .inl htables, fun _ => rfl⟩

theorem missingCount_tabled {s : Snapshot} (htables : s.tables ≠ [])
    (h : ¬s.Finished fingerprint plans) :
    MissingCount s fingerprint plans (plans.length - (s.markers fingerprint).length) where
  untabled h := absurd h htables
  tabled _ := ⟨h, rfl⟩
  le := sub_length_le_absent _ _
  exact_iff := sub_length_eq_absent_iff.trans (or_iff_right htables).symm

theorem Placing.placeholderMissing_iff {expected missing : Nat} :
    Placing document fingerprint plans t (.error (.placeholderMissing expected missing)) ↔
      ∃ s, t = [fetched document (.ok s)] ∧ s.tables ≠ [] ∧ expected = plans.length ∧
        MissingCount s fingerprint plans missing := by
  constructor
  · intro h
    cases h with
    | refused s h htables => exact ⟨s, rfl, htables, rfl, missingCount_tabled htables h⟩
  · rintro ⟨s, rfl, htables, rfl, hcount⟩
    obtain ⟨hunfinished, rfl⟩ := hcount.tabled htables
    exact .refused s hunfinished htables

theorem Placement.missing_of_problem {p : Placement} {n expected missing : Nat}
    (h : .placeholderMissing expected missing ∈ p.problems n) :
    expected = n ∧ missing = p.missing.length ∧ p.missing ≠ [] := by
  simp only [Placement.problems, List.mem_append] at h
  rcases h with (h | h) | h
  · split at h
    · cases h
    · rename_i hne
      obtain ⟨rfl, rfl⟩ := TableError.placeholderMissing.inj (List.mem_singleton.1 h)
      exact ⟨rfl, rfl, by simpa using hne⟩
  · split at h <;> simp at h
  · split at h <;> simp at h

theorem Trouble.placeholderMissing (hplans : Numbered plans) {expected missing : Nat}
    (h : Trouble document fingerprint plans t (.placeholderMissing expected missing)) :
    ∃ s t', t = fetched document (.ok s) :: t' ∧ expected = plans.length ∧
      MissingCount s fingerprint plans missing := by
  cases h with
  | unplaced h =>
    obtain ⟨s, rfl, -, rfl, hcount⟩ := Placing.placeholderMissing_iff.1 h
    exact ⟨s, [], rfl, rfl, hcount⟩
  | @incomplete p _ h he =>
    obtain ⟨rfl, rfl, hne⟩ := Placement.missing_of_problem he
    cases h with
    | finished s h => exact absurd rfl hne
    | @placed s h htables selected _ hselected =>
      have habsent := hplans.missing_eq_absent (s.markers fingerprint)
      rw [hselected] at habsent
      rw [habsent] at hne ⊢
      exact ⟨s, _, rfl, rfl, missingCount_untabled htables hne⟩
  | unfilled h h' =>
    rcases populateTables_error h' with hmismatch | ⟨source, hservice⟩
    · cases hmismatch
    · cases hservice

/-- Wherever missing markers are told of, the number of plans is right. The number of missing
markers is that of the planned tables without one if the fetched document has no table; otherwise
all markers are subtracted from the plans, which gives at most that number. -/
theorem placeholderMissing_count [Markdown.Parser] (document fingerprint : String)
    (plans : List TablePlan) :
    (∀ t expected missing, (placeSkeletons document fingerprint plans).Runs t
        (.error (.placeholderMissing expected missing)) ↔
      ∃ s, t = [fetched document (.ok s)] ∧ s.tables ≠ [] ∧ expected = plans.length ∧
        MissingCount s fingerprint plans missing) ∧
    ∀ settings markdown title t result expected missing,
      (exportMarkdown settings markdown title).Runs t result →
        .placeholderMissing expected missing ∈ told ExportReport.problems result →
          ∃ pictures resolved document s before after,
            ((Document.ofMarkdown markdown).resolve settings.style settings.options).Runs
                pictures resolved ∧
              t = entered .resolvingAssets :: (pictures ++ entered .emitting ::
                (before ++ entered .materializingTables :: fetched document (.ok s) :: after)) ∧
              let plans := ((Document.ofMarkdown markdown).compile resolved.map
                settings.options).plans
              expected = plans.length ∧
                MissingCount s (Document.ofMarkdown markdown).fingerprint plans missing := by
  refine ⟨fun t expected missing => placeSkeletons_runs_iff.trans Placing.placeholderMissing_iff,
    fun settings markdown title t result expected missing h he => ?_⟩
  obtain ⟨pictures, resolved, document, before, t₁, after, hpictures, rfl, htrouble⟩ :=
    exportMarkdown_trouble h he
  have hnumbered := numbered_compile (Document.ofMarkdown markdown) resolved.map settings.options
  obtain ⟨s, t', rfl, hexpected, hcount⟩ := htrouble.placeholderMissing hnumbered
  exact ⟨pictures, resolved, document, s, before, t' ++ after, hpictures, rfl, hexpected, hcount⟩

end

def showsNothing : (c : Call) → StateM Content c.Reply
  | .fetch document => pure (.ok ⟨document, "", []⟩)
  | c => Service.reference.answer c

def markerlessReport : ExportReport :=
  ⟨"Report", 1, ["1 of 1 table placeholders were not found in the document"],
    .partly 1 0 [.placeholderMissing 1 1]⟩

theorem runs_markerless :
    ∃ t, (exportMarkdown plainSettings "| A |\n|---|" "Report").Runs t (.ok markerlessReport) := by
  have hreport : (((exportMarkdown plainSettings "| A |\n|---|" "Report").run showsNothing).run
      []).1 = .ok markerlessReport := by
    decide +kernel
  rw [← hreport]
  exact ⟨_, Process.runs_log showsNothing _ _⟩

theorem placeholderMissing_count_markerless :
    ∃ (t : List Exchange) (s : Snapshot) (plans : List TablePlan),
      (exportMarkdown plainSettings "| A |\n|---|" "Report").Runs t (.ok markerlessReport) ∧
        1 = plans.length ∧ MissingCount s oneTable.fingerprint plans 1 := by
  obtain ⟨t, h⟩ := runs_markerless
  obtain ⟨-, hexport⟩ := placeholderMissing_count "document" oneTable.fingerprint []
  obtain ⟨_, _, _, s, _, _, -, -, hexpected, hcount⟩ :=
    hexport _ _ _ _ _ 1 1 h (List.mem_singleton_self _)
  exact ⟨t, s, _, h, hexpected, hcount⟩

def Document.twiceMarked (doc : Document) : Content :=
  inLook .plain (blankTable 1 1) ++ doc.markerLines [0, 0]

/-- The second table has no marker, but what is told is that none is missing. -/
theorem placeholderMissing_duplicates :
    let s := Service.reference.fetch "document" twoTables.twiceMarked
    (twoTables.compile .empty .default).plans.length = 2 ∧
      absent (s.markers twoTables.fingerprint) 2 = [1] ∧
      (Service.reference.run twoTables.placeTables twoTables.twiceMarked).1 =
        .error (.placeholderMissing 2 0) := by
  decide +kernel

end Folio
