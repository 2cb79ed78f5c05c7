import Folio.Proofs.Export.Trouble
/-!
Which failed exports advise the user to sign in again. The error of the service that stands behind a
failed export is the reply to the last call of its run. If the document could not be created or its
structure not be committed, the advice is given exactly when the credentials have expired; if its
tables could not be completed, it never is (`exportMarkdown_advice`), even when they have expired
(`expiredFetch_unadvised`).
-/
set_option autoImplicit false

namespace Folio

open Edit Remote Process Exchange

namespace ExportError

/-- The error of the service behind the failure, directly or as the source of a table error. -/
def service? : ExportError → Option ServiceError
  | .createDocument source | .commitStructure _ source => some source
  | .tables _ (.service source) => some source
  | .tables .. => none

def AdvisesSignIn (e : ExportError) : Prop :=
  ∃ help, e.help? = some help ∧ "sign in again".toList <:+: help.toList

theorem advisesSignIn_of_help {e : ExportError} {source : ServiceError}
    (h : e.help? = if source.isAuthExpired then some signInAdvice else none) :
    e.AdvisesSignIn ↔ source.isAuthExpired = true := by
  rw [AdvisesSignIn, h]
  constructor
  · rintro ⟨help, hhelp, -⟩
    split at hhelp
    · assumption
    · cases hhelp
  · intro hexpired
    exact ⟨signInAdvice, if_pos hexpired, by decide +kernel⟩

theorem not_advisesSignIn_tables (document : String) (problem : TableError) :
    ¬(tables document problem).AdvisesSignIn := by
  rintro ⟨help, hhelp, hinfix⟩
  cases hhelp
  exact absurd hinfix (by decide +kernel)

end ExportError

def errorOf? {ε α : Type} : Except ε α → Option ε
  | .ok _ => none
  | .error e => some e

def Exchange.failure? : Exchange → Option ServiceError
  | ⟨.create _, r⟩ => errorOf? (α := String) r
  | ⟨.commit .., r⟩ => errorOf? (α := Unit) r
  | ⟨.fetch _, r⟩ => errorOf? (α := Snapshot) r
  | _ => none

def EndsWith (t : List Exchange) (source : ServiceError) : Prop :=
  ∃ front x, t = front ++ [x] ∧ x.failure? = some source

section

variable {document fingerprint : String} {plans : List TablePlan} {t : List Exchange}
  {source : ServiceError} {e : ExportError}

theorem EndsWith.append (h : EndsWith t source) (front : List Exchange) :
    EndsWith (front ++ t) source := by
  obtain ⟨front', x, rfl, hx⟩ := h
  exact ⟨front ++ front', x, by simp, hx⟩

theorem EndsWith.cons (h : EndsWith t source) (x : Exchange) : EndsWith (x :: t) source :=
  h.append [x]

/-- A phase that ends with an error of the service ends with the call that failed. -/
theorem TablePhase.endsWith {α : Type}
    (h : TablePhase document t (.error (.service source) : Except TableError α)) :
    EndsWith t source := by
  cases h with
  | unfetched => exact ⟨[], _, rfl, rfl⟩
  | refused s hcheck => cases hcheck
  | uncommitted s hne => exact ⟨[_], _, rfl, rfl⟩

theorem Placement.service_not_mem_problems (p : Placement) (n : Nat) :
    .service source ∉ p.problems n := by
  simp only [Placement.problems, List.mem_append, not_or]
  refine ⟨⟨?_, ?_⟩, ?_⟩
  all_goals split <;> simp

/-- Trouble with tables is an error for the strict only, and the first problem is the one that is told. -/
theorem tableFailure_eq_error {strict : Bool} {expected completed : Nat} {problems : List TableError}
    (h : tableFailure strict document expected completed problems = .error e) :
    strict = true ∧ ∃ problem rest, problems = problem :: rest ∧ e = .tables document problem := by
  unfold tableFailure at h
  split at h
  · cases h
    exact ⟨rfl, _, _, rfl, rfl⟩
  · cases h

theorem materialize_failed {strict : Bool}
    (h : (materialize strict document fingerprint plans).Runs t (.error e)) :
    strict = true ∧ ∃ problem, e = .tables document problem ∧
      ∀ source, problem = .service source → EndsWith t source := by
  obtain ⟨t', hnext, rfl⟩ := runs_enter_bind.1 h
  obtain ⟨t₁, v, t₂, hplace, hrest, rfl⟩ := runs_bind.1 hnext
  cases v with
  | error problem =>
    obtain ⟨rfl, hverdict⟩ := runs_pure.1 hrest
    obtain ⟨hstrict, problem', rest, hproblems, rfl⟩ := tableFailure_eq_error hverdict.symm
    obtain ⟨rfl, -⟩ := List.cons.inj hproblems
    refine ⟨hstrict, problem, rfl, ?_⟩
    rintro source rfl
    rw [List.append_nil]
    exact (placeSkeletons_phase hplace).endsWith.cons _
  | ok p =>
    obtain ⟨t₃, hafter, rfl⟩ := runs_enter_bind.1 hrest
    obtain ⟨t₄, ⟨completed, trouble⟩, t₅, hfill, hend, rfl⟩ := runs_bind.1 hafter
    dsimp only at hend
    split at hend
    · cases (runs_pure.1 hend).2
    · obtain ⟨rfl, hverdict⟩ := runs_pure.1 hend
      obtain ⟨hstrict, problem, rest, hproblems, rfl⟩ := tableFailure_eq_error hverdict.symm
      refine ⟨hstrict, problem, rfl, ?_⟩
      rintro source rfl
      -- No problem of the placement comes before it, so it is the trouble that filling met.
      have hmem : .service source ∈ p.problems plans.length ++ trouble := by
        rw [hproblems]
        exact List.mem_cons_self
      have htrouble := (List.mem_append.1 hmem).resolve_left (p.service_not_mem_problems _)
      have hphase := populateTables_phase (fillPlaced_trouble hfill htrouble)
      rw [List.append_nil]
      exact ((hphase.endsWith.cons _).append t₁).cons _

theorem writeDocument_failed {s : ExportSettings} {title : String} {doc : Document} {draft : Draft}
    {failures : List AssetFailure} (h : (writeDocument s title doc draft failures).Runs t (.error e)) :
    (∀ source, e.service? = some source → EndsWith t source) ∧
      (e.tableError?.isSome = true → s.options.strictTables = true) := by
  obtain ⟨reply, t', hnext, rfl⟩ := runs_create_bind.1 h
  cases reply with
  | error source =>
    obtain ⟨rfl, hresult⟩ := runs_pure.1 hnext
    cases hresult
    refine ⟨?_, nofun⟩
    rintro _ ⟨rfl⟩
    exact ⟨[], _, rfl, rfl⟩
  | ok document =>
    rcases runs_structureBatch hnext with ⟨t₁, hrest, rfl⟩ | ⟨-, source, t₁, hrest, rfl⟩
    · dsimp only at hrest
      split at hrest
      · cases (runs_pure.1 hrest).2
      · obtain ⟨t₂, v, t₃, hrun, hend, rfl⟩ := runs_bind.1 hrest
        cases v with
        | ok outcome => cases (runs_pure.1 hend).2
        | error e' =>
          obtain ⟨rfl, hresult⟩ := runs_pure.1 hend
          cases hresult
          obtain ⟨hstrict, problem, rfl, hends⟩ := materialize_failed hrun
          refine ⟨fun source hsource => ?_, fun _ => hstrict⟩
          rw [List.append_nil]
          refine ((hends source ?_).append _).cons _
          cases problem with
          | service source' => rw [Option.some.inj hsource]
          | _ => cases hsource
    · obtain ⟨rfl, hresult⟩ := runs_pure.1 hrest
      cases hresult
      refine ⟨?_, nofun⟩
      rintro _ ⟨rfl⟩
      exact ⟨[_], _, rfl, rfl⟩

end

/-- An export that fails over a call of the service fails with the last call that it makes. If this was
the creation of the document or the commit of its structure, the help advises to sign in again exactly
when the credentials have expired. If the tables are told of, then at the wish of a strict user, and the
help advises to accept partial tables, whatever the service has said. -/
theorem exportMarkdown_advice [Markdown.Parser] {s : ExportSettings} {markdown title : String}
    {t : List Exchange} {e : ExportError} (h : (exportMarkdown s markdown title).Runs t (.error e)) :
    (∀ source, e.service? = some source →
      ∃ front x, t = front ++ [x, entered .failed] ∧ x.failure? = some source) ∧
    (e.tableError? = none → ∃ source, e.service? = some source ∧
      (e.AdvisesSignIn ↔ source.isAuthExpired = true)) ∧
    (e.tableError?.isSome = true → s.options.strictTables = true ∧
      e.help? = some ExportError.partialTablesAdvice ∧ ¬e.AdvisesSignIn) := by
  obtain ⟨t', hbody, rfl⟩ := exportMarkdown_runs h
  obtain ⟨pictures, resolved, writing, -, hwriting, rfl⟩ := exportBody_parts hbody
  obtain ⟨hends, hstrict⟩ := writeDocument_failed hwriting
  refine ⟨fun source hsource => ?_, fun hdirect => ?_, fun htables => ?_⟩
  · obtain ⟨front, x, rfl, hx⟩ := hends source hsource
    exact ⟨entered .resolvingAssets :: (pictures ++ entered .emitting ::
      entered .committingStructure :: front), x, by simp [terminalState, Except.isOk, Except.toBool], hx⟩
  · cases e with
    | createDocument source => exact ⟨source, rfl, ExportError.advisesSignIn_of_help rfl⟩
    | commitStructure document source => exact ⟨source, rfl, ExportError.advisesSignIn_of_help rfl⟩
    | tables => cases hdirect
  · cases e with
    | tables document problem =>
      exact ⟨hstrict htables, rfl, ExportError.not_advisesSignIn_tables document problem⟩
    | _ => cases htables

def expiredToken : ServiceError := .api 401 "expired" (some "UNAUTHENTICATED")

def deniesBatches : (c : Call) → StateM Content c.Reply
  | .commit .. => pure (.error expiredToken)
  | c => Service.reference.answer c

def deniesReading : (c : Call) → StateM Content c.Reply
  | .fetch _ => pure (.error expiredToken)
  | c => Service.reference.answer c

theorem runs_deniesBatches :
    ∃ t, (exportMarkdown plainSettings "a" "Report").Runs t
      (.error (.commitStructure "Report" expiredToken)) := by
  have hresult : (((exportMarkdown plainSettings "a" "Report").run deniesBatches).run []).1 =
      .error (.commitStructure "Report" expiredToken) := by
    decide +kernel
  rw [← hresult]
  exact ⟨_, Process.runs_log deniesBatches _ _⟩

theorem exportMarkdown_advice_commit :
    (∃ t, (exportMarkdown plainSettings "a" "Report").Runs t
      (.error (.commitStructure "Report" expiredToken))) ∧
      (ExportError.commitStructure "Report" expiredToken).AdvisesSignIn := by
  obtain ⟨t, h⟩ := runs_deniesBatches
  obtain ⟨source, hsource, hadvice⟩ := (exportMarkdown_advice h).2.1 rfl
  cases hsource
  exact ⟨⟨t, h⟩, hadvice.2 rfl⟩

def strictSettings : ExportSettings :=
  { plainSettings with options := { plainSettings.options with strictTables := true } }

/-- The credentials expire when a document with a table is read again, but what is advised is to accept
partial tables. -/
theorem expiredFetch_unadvised :
    (∃ t, (exportMarkdown strictSettings "| A |\n|---|" "Report").Runs t
      (.error (.tables "Report" (.service expiredToken)))) ∧
      (ExportError.tables "Report" (.service expiredToken)).service? = some expiredToken ∧
      expiredToken.isAuthExpired = true ∧
      ¬(ExportError.tables "Report" (.service expiredToken)).AdvisesSignIn := by
  refine ⟨?_, rfl, rfl, ExportError.not_advisesSignIn_tables _ _⟩
  have hresult : (((exportMarkdown strictSettings "| A |\n|---|" "Report").run deniesReading).run
      []).1 = .error (.tables "Report" (.service expiredToken)) := by
    decide +kernel
  rw [← hresult]
  exact ⟨_, Process.runs_log deniesReading _ _⟩

end Folio
