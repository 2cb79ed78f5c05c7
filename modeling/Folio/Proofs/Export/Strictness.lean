import Folio.Proofs.Export.Accounting
/-!
What the wish for complete tables changes: the verdict, and nothing else. Two exports of one text
that differ in that wish alone are compared, each against the same collaborators
(`exportMarkdown_strict`). The strict process is the lenient one with its report judged at the end
(`exportBody_strict`), so both ask the same things in the same order.
-/
set_option autoImplicit false

namespace Folio

open Process Exchange

/-- How the collaborators answer each call behind the exchanges there have been so far. The viewport
is one of them. -/
abbrev Behaviour := (past : List Exchange) → (c : Call) → c.Reply

def Behaviour.answer (b : Behaviour) (c : Call) : StateM (List Exchange) c.Reply := fun past =>
  (b past c, past ++ [⟨c, b past c⟩])

namespace Process

variable {α β : Type}

instance : LawfulMonad Process := .mk' Process bind_done (fun _ _ => rfl) bind_bind

theorem bind_eq_map {γ : Type} {p : Process α} {f : α → Process γ} {g : α → Process β} {k : β → γ}
    (h : ∀ a, f a = k <$> g a) : p >>= f = k <$> (p >>= g) := by
  rw [map_bind]
  exact bind_congr h

def against (p : Process α) (b : Behaviour) : List Exchange × α := ((p.run b.answer).run []).swap

theorem run_answer_runs (p : Process α) (b : Behaviour) (past : List Exchange) :
    ∃ t, p.Runs t ((p.run b.answer).run past).1 ∧
      ((p.run b.answer).run past).2 = past ++ t := by
  induction p generalizing past with
  | done a => exact ⟨[], .done a, (List.append_nil past).symm⟩
  | ask c next ih =>
    obtain ⟨t, hruns, hpast⟩ := ih (b past c) (past ++ [⟨c, b past c⟩])
    exact ⟨_, .ask _ hruns, hpast.trans (List.append_assoc past _ t)⟩

theorem against_runs (p : Process α) (b : Behaviour) :
    p.Runs (p.against b).1 (p.against b).2 := by
  obtain ⟨t, hruns, hpast⟩ := run_answer_runs p b []
  rw [List.nil_append] at hpast
  rw [← hpast] at hruns
  exact hruns

/-- A state that is entered behind a process does not change what came before it. -/
theorem against_enter (p : Process α) (b : Behaviour) (state : α → ExportState) (result : α → β) :
    (p >>= fun a => call (.enter (state a)) >>= fun _ => pure (result a)).against b =
      ((p.against b).1 ++ [entered (state (p.against b).2)], result (p.against b).2) := by
  have hrun := Process.run_bind b.answer p fun a =>
    call (.enter (state a)) >>= fun _ => pure (result a)
  change (((p.bind _).run b.answer).run []).swap = _
  rw [hrun]
  rfl

end Process

def ExportOptions.withStrict (o : ExportOptions) (strict : Bool) : ExportOptions :=
  { o with strictTables := strict }

def ExportSettings.withStrict (s : ExportSettings) (strict : Bool) : ExportSettings :=
  { s with options := s.options.withStrict strict }

def Setting.withStrict (s : Setting) (strict : Bool) : Setting :=
  { s with options := s.options.withStrict strict }

theorem alike_withStrict (s : Setting) (strict : Bool) : (s.withStrict strict).Alike s :=
  ⟨rfl, rfl, rfl, rfl, rfl, fun _ _ => rfl⟩

theorem compile_withStrict (doc : Document) (assets : AssetMap) (o : ExportOptions)
    (strict : Bool) : doc.compile assets (o.withStrict strict) = doc.compile assets o :=
  emit_congr (alike_withStrict ⟨doc.fingerprint, assets, o⟩ strict) doc.root .empty

/-! The verdict of a strict export on what a lenient one ends with. -/

/-- A result about a document, unless there are problems; then the first of them. -/
def judge {α : Type} (document : String) (problems : List TableError) (a : α) :
    Except ExportError α :=
  match problems with
  | [] => .ok a
  | e :: _ => .error (.tables document e)

def TableOutcome.judged (document : String) (outcome : TableOutcome) :
    Except ExportError TableOutcome :=
  judge document outcome.problems outcome

def ExportReport.judged (r : ExportReport) : Except ExportError ExportReport :=
  judge r.documentId r.tables.problems r

theorem tableFailure_strict (document : String) (expected completed : Nat)
    (problems : List TableError) :
    tableFailure true document expected completed problems =
      tableFailure false document expected completed problems >>= TableOutcome.judged document := by
  cases problems <;> rfl

theorem materialize_strict (document fingerprint : String) (plans : List TablePlan) :
    materialize true document fingerprint plans =
      (· >>= TableOutcome.judged document) <$> materialize false document fingerprint plans := by
  refine bind_eq_map fun _ => bind_eq_map fun placed => ?_
  cases placed with
  | error e => exact congrArg pure (tableFailure_strict document plans.length 0 [e])
  | ok p =>
    refine bind_eq_map fun _ => bind_eq_map fun filled => ?_
    dsimp only
    split
    · rfl
    · exact congrArg pure (tableFailure_strict document plans.length filled.1 _)

theorem report_judged (document : String) (failures : List AssetFailure) (outcome : TableOutcome) :
    (report document failures outcome).judged =
      (outcome.judged document).map (report document failures) := by
  cases outcome with
  | none => rfl
  | complete tables => rfl
  | partly expected completed problems => cases problems <;> rfl

def writeTables (strict : Bool) (document fingerprint : String) (plans : List TablePlan)
    (failures : List AssetFailure) : Process (Except ExportError ExportReport) := do
  if plans.isEmpty then return .ok (report document failures .none)
  else match ← materialize strict document fingerprint plans with
    | .error e => return .error e
    | .ok tables => return .ok (report document failures tables)

theorem writeTables_strict (document fingerprint : String) (plans : List TablePlan)
    (failures : List AssetFailure) :
    writeTables true document fingerprint plans failures =
      (· >>= ExportReport.judged) <$>
        writeTables false document fingerprint plans failures := by
  unfold writeTables
  split
  · rfl
  · rw [materialize_strict, bind_map_left, map_bind]
    refine bind_congr fun verdict => ?_
    cases verdict with
    | error e => rfl
    | ok outcome =>
      have hok : Except.ok outcome >>= TableOutcome.judged document = outcome.judged document := rfl
      change _ = pure (report document failures outcome).judged
      rw [report_judged, hok]
      cases outcome.judged document <;> rfl

theorem writeDocument_strict (s : ExportSettings) (title : String) (doc : Document) (draft : Draft)
    (failures : List AssetFailure) :
    writeDocument (s.withStrict true) title doc draft failures =
      (· >>= ExportReport.judged) <$>
        writeDocument (s.withStrict false) title doc draft failures := by
  refine bind_eq_map fun created => ?_
  cases created with
  | error e => rfl
  | ok document =>
    dsimp only
    split
    · exact writeTables_strict document doc.fingerprint draft.plans failures
    · refine bind_eq_map fun committed => ?_
      cases committed with
      | error e => rfl
      | ok u => exact writeTables_strict document doc.fingerprint draft.plans failures

theorem exportBody_strict [Markdown.Parser] (s : ExportSettings) (markdown title : String) :
    exportBody (s.withStrict true) markdown title =
      (· >>= ExportReport.judged) <$> exportBody (s.withStrict false) markdown title := by
  -- The pictures do not depend on the wish by definition, the draft by induction on the document.
  refine bind_eq_map fun _ => bind_eq_map fun resolved => bind_eq_map fun _ => bind_eq_map fun _ => ?_
  have hdraft : ∀ strict, (Document.ofMarkdown markdown).compile resolved.map
      (s.withStrict strict).options = (Document.ofMarkdown markdown).compile resolved.map s.options :=
    compile_withStrict (Document.ofMarkdown markdown) resolved.map s.options
  rw [hdraft, hdraft]
  exact writeDocument_strict s title _ _ resolved.failures

/-! A lenient export does not fail because of tables, and it does not lose tables unseen. -/

section Lenient

variable {s : ExportSettings} {markdown title document fingerprint : String} {t : List Exchange}
  {plans : List TablePlan} {e : TableError}

theorem materialize_lenient {v : Except ExportError TableOutcome}
    (h : (materialize false document fingerprint plans).Runs t v) : v.isOk := by
  have hfailure : ∀ completed problems,
      (tableFailure false document plans.length completed problems).isOk := by
    intro completed problems
    cases problems <;> rfl
  obtain ⟨t', hnext, rfl⟩ := runs_enter_bind.1 h
  obtain ⟨t₁, placed, t₂, -, hrest, rfl⟩ := runs_bind.1 hnext
  cases placed with
  | error e =>
    rw [(runs_pure.1 hrest).2]
    exact hfailure 0 [e]
  | ok p =>
    obtain ⟨t₃, hafter, rfl⟩ := runs_enter_bind.1 hrest
    obtain ⟨t₄, ⟨completed, trouble⟩, t₅, -, hend, rfl⟩ := runs_bind.1 hafter
    dsimp only at hend
    split at hend
    · rw [(runs_pure.1 hend).2]
      rfl
    · rw [(runs_pure.1 hend).2]
      exact hfailure completed _

theorem writeTables_lenient {failures : List AssetFailure}
    {result : Except ExportError ExportReport}
    (h : (writeTables false document fingerprint plans failures).Runs t result) : result.isOk := by
  unfold writeTables at h
  split at h
  · rw [(runs_pure.1 h).2]
    rfl
  · obtain ⟨t₁, v, t₂, hrun, hend, -⟩ := runs_bind.1 h
    have hok := materialize_lenient hrun
    cases v with
    | error e => cases hok
    | ok outcome =>
      rw [(runs_pure.1 hend).2]
      rfl

theorem exportBody_lenient [Markdown.Parser] :
    ¬ (exportBody (s.withStrict false) markdown title).Runs t (.error (.tables document e)) := by
  intro h
  obtain ⟨pictures, resolved, writing, -, hwriting, rfl⟩ := exportBody_parts h
  obtain ⟨reply, t', hnext, rfl⟩ := runs_create_bind.1 hwriting
  cases reply with
  | error e => cases (runs_pure.1 hnext).2
  | ok created =>
    rcases runs_structureBatch hnext with ⟨t₁, hrest, -⟩ | ⟨-, e, t₁, hrest, -⟩
    · cases writeTables_lenient hrest
    · cases (runs_pure.1 hrest).2

theorem Settled.isDegraded_iff {outcome : TableOutcome} (h : Settled document plans t outcome) :
    outcome.isDegraded ↔ outcome.problems ≠ [] := by
  cases h with
  | partly h trouble => simpa [TableOutcome.isDegraded, TableOutcome.problems] using trouble
  | _ => simp [TableOutcome.isDegraded, TableOutcome.problems]

theorem exportBody_isDegraded_iff [Markdown.Parser] {r : ExportReport}
    (h : (exportBody s markdown title).Runs t (.ok r)) :
    r.tables.isDegraded ↔ r.tables.problems ≠ [] := by
  obtain ⟨pictures, resolved, writing, -, hwriting, -⟩ := exportBody_parts h
  have hplans := numbered_compile (Document.ofMarkdown markdown) resolved.map s.options
  exact (writeDocument_settled hplans hwriting).2.isDegraded_iff

end Lenient

def EndsPartly (result : Except ExportError ExportReport) : Prop :=
  ∃ r, result = .ok r ∧ r.tables.isDegraded

/-- How the result of a strict export follows from that of a lenient one. -/
structure StrictVerdict (lenient strict : Except ExportError ExportReport) : Prop where
  fails_iff : (∃ document e, strict = .error (.tables document e)) ↔ EndsPartly lenient
  source : ∀ r, lenient = .ok r → r.tables.isDegraded →
    ∃ e rest, r.tables.problems = e :: rest ∧ strict = .error (.tables r.documentId e)
  otherwise : ¬ EndsPartly lenient → strict = lenient

/-- The exchanges and the result of a lenient export, and those of a strict one. -/
structure DifferInVerdict (lenient strict : List Exchange × Except ExportError ExportReport) :
    Prop where
  calls : ∃ t, lenient.1 = t ++ [entered (terminalState lenient.2)] ∧
    strict.1 = t ++ [entered (terminalState strict.2)]
  verdict : StrictVerdict lenient.2 strict.2

theorem strictVerdict_judged [Markdown.Parser] {s : ExportSettings} {markdown title : String}
    {t : List Exchange} {result : Except ExportError ExportReport}
    (h : (exportBody (s.withStrict false) markdown title).Runs t result) :
    StrictVerdict result (result >>= ExportReport.judged) := by
  cases result with
  | error e =>
    have hend : ¬ EndsPartly (.error e) := by
      rintro ⟨r, ⟨⟩, -⟩
    refine ⟨⟨?_, fun hpartly => absurd hpartly hend⟩, fun r hr => ?_, fun _ => rfl⟩
    · rintro ⟨document, source, herror⟩
      cases herror
      exact absurd h exportBody_lenient
    · cases hr
  | ok r =>
    have hdegraded := exportBody_isDegraded_iff h
    have hjudged : Except.ok r >>= ExportReport.judged = r.judged := rfl
    rw [hjudged, ExportReport.judged]
    cases hproblems : r.tables.problems with
    | nil =>
      have hend : ¬ EndsPartly (.ok r) := by
        rintro ⟨r', ⟨⟩, hlost⟩
        exact hdegraded.1 hlost hproblems
      refine ⟨⟨?_, fun hpartly => absurd hpartly hend⟩, ?_, fun _ => rfl⟩
      · rintro ⟨document, source, ⟨⟩⟩
      · rintro r' ⟨⟩ hlost
        exact absurd hproblems (hdegraded.1 hlost)
    | cons e rest =>
      have hlost : r.tables.isDegraded := by
        rw [hdegraded, hproblems]
        exact List.cons_ne_nil e rest
      have hend : EndsPartly (.ok r) := ⟨r, rfl, hlost⟩
      refine ⟨⟨fun _ => hend, fun _ => ⟨r.documentId, e, rfl⟩⟩, ?_, fun h => absurd hend h⟩
      rintro r' ⟨⟩ -
      exact ⟨e, rest, hproblems, rfl⟩

theorem exportMarkdown_eq [Markdown.Parser] (s : ExportSettings) (markdown title : String) :
    exportMarkdown s markdown title = exportBody s markdown title >>= fun result =>
      call (.enter (terminalState result)) >>= fun _ => pure result := by
  refine bind_congr fun result => ?_
  cases result <;> rfl

/-- Of two exports that differ in the wish for complete tables alone, with the same collaborators,
the strict one fails because of tables exactly if the lenient one has lost some. -/
theorem exportMarkdown_strict [Markdown.Parser] (s : ExportSettings) (markdown title : String)
    (b : Behaviour) :
    DifferInVerdict ((exportMarkdown (s.withStrict false) markdown title).against b)
      ((exportMarkdown (s.withStrict true) markdown title).against b) := by
  rw [exportMarkdown_eq, exportMarkdown_eq, exportBody_strict, bind_map_left, against_enter,
    against_enter]
  have hruns := against_runs (exportBody (s.withStrict false) markdown title) b
  generalize (exportBody (s.withStrict false) markdown title).against b = lenient at hruns ⊢
  exact ⟨⟨lenient.1, rfl, rfl⟩, strictVerdict_judged hruns⟩

def forgetful : Behaviour := fun _ c =>
  match c with
  | .acquire | .release | .mount _ | .enter _ => ()
  | .mounted => none
  | .render .. => .error .transport
  | .capture .. => .error .nothingMounted
  | .upload _ => .error .transport
  | .create title => .ok title
  | .commit .. => .ok ()
  | .fetch document => .ok ⟨document, document, []⟩

example : ((exportMarkdown (plainSettings.withStrict true) "| A |\n|---|" "Report").against
    forgetful).2 = .error (.tables "Report" (.placeholderMissing 1 1)) := by
  decide +kernel

end Folio
