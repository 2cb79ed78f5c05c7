import Mathlib.Control.Monad.Basic
import Folio.Markdown.Reader
import Folio.Proofs.Export.Trace
import Folio.Proofs.Remote.Reading
/-!
The shape of every export, whoever answers and however: which states it shows, which calls it makes
of the document service, and where it stops (`exportMarkdown_shape`). The phases are described one
by one (`TablePhase`, `TablePhases`, `Writing`); a failed call is the last one, and a check that
fails on what was fetched sends nothing.
-/
set_option autoImplicit false

namespace Folio

open Edit Process

namespace Exchange

abbrev created (title : String) (r : Except ServiceError String) : Exchange := ⟨.create title, r⟩

abbrev committed (document : String) (rs : List Request) (r : Except ServiceError Unit) :
    Exchange :=
  ⟨.commit document rs, r⟩

abbrev fetched (document : String) (r : Except ServiceError Snapshot) : Exchange :=
  ⟨.fetch document, r⟩

abbrev entered (state : ExportState) : Exchange := ⟨.enter state, ()⟩

def state? : Exchange → Option ExportState
  | ⟨.enter state, _⟩ => some state
  | _ => none

def batch? : Exchange → Option (List Request)
  | ⟨.commit _ rs, _⟩ => some rs
  | _ => none

def isService : Exchange → Bool
  | ⟨.create _, _⟩ | ⟨.commit .., _⟩ | ⟨.fetch _, _⟩ => true
  | _ => false

def isFailure : Exchange → Bool
  | ⟨.create _, r⟩ => !Except.isOk (α := String) r
  | ⟨.commit .., r⟩ => !Except.isOk (α := Unit) r
  | ⟨.fetch _, r⟩ => !Except.isOk (α := Snapshot) r
  | _ => false

def isPicture (x : Exchange) : Bool := x.state?.isNone && !x.isService

end Exchange

open Exchange

def TableError.isCheck : TableError → Bool
  | .placeholderMissing .. | .countMismatch .. | .shapeMismatch .. => true
  | _ => false

def TableError.isMismatch : TableError → Bool
  | .countMismatch .. | .shapeMismatch .. => true
  | _ => false

theorem TableError.isCheck_of_isMismatch {e : TableError} (h : e.isMismatch) : e.isCheck := by
  cases e <;> first | rfl | cases h

/-- One of the two later phases with its verdict: a fetch, and behind it at most one batch, which is
not empty. Nothing is sent if the fetch fails or what was fetched does not pass a check. -/
inductive TablePhase (document : String) {α : Type} :
    List Exchange → Except TableError α → Prop where
  | unfetched (e : ServiceError) :
    TablePhase document [fetched document (.error e)] (.error (.service e))
  | refused (s : Snapshot) {e : TableError} (h : e.isCheck) :
    TablePhase document [fetched document (.ok s)] (.error e)
  | unchanged (s : Snapshot) (a : α) : TablePhase document [fetched document (.ok s)] (.ok a)
  | uncommitted (s : Snapshot) {rs : List Request} (h : rs ≠ []) (e : ServiceError) :
    TablePhase document [fetched document (.ok s), committed document rs (.error e)]
      (.error (.service e))
  | changed (s : Snapshot) {rs : List Request} (h : rs ≠ []) (a : α) :
    TablePhase document [fetched document (.ok s), committed document rs (.ok ())] (.ok a)

/-- The structure batch, which was accepted; an empty one is not sent. -/
def structureBatch (document : String) (requests : List Request) : List Exchange :=
  if requests = [] then [] else [committed document requests (.ok ())]

/-- Everything between the entry of the table phases and the end. The cells follow a placement that
has put some tables in place. -/
inductive TablePhases (document fingerprint : String) (plans : List TablePlan) :
    List Exchange → Prop where
  | unplaced {phase : List Exchange} {e : TableError}
      (run : (placeSkeletons document fingerprint plans).Runs phase (.error e))
      (shape : TablePhase document phase (.error e : Except TableError Placement)) :
    TablePhases document fingerprint plans (entered .materializingTables :: phase)
  | unfilled {phase : List Exchange} {p : Placement}
      (run : (placeSkeletons document fingerprint plans).Runs phase (.ok p))
      (shape : TablePhase document phase (.ok p)) (h : p.placed = []) :
    TablePhases document fingerprint plans
      (entered .materializingTables :: (phase ++ [entered .populatingTables]))
  | filled {phase phase' : List Exchange} {p : Placement} {r : Except TableError Population}
      (run : (placeSkeletons document fingerprint plans).Runs phase (.ok p))
      (shape : TablePhase document phase (.ok p)) (h : p.placed ≠ [])
      (run' : (populateTables document plans p.placed).Runs phase' r)
      (shape' : TablePhase document phase' r) :
    TablePhases document fingerprint plans
      (entered .materializingTables :: (phase ++ entered .populatingTables :: phase'))

/-- Everything from the creation of a document to the end, and whether that is a good one. The
tables follow an accepted structure batch of a draft that plans some. -/
inductive Writing (title fingerprint : String) (draft : Draft) : List Exchange → Bool → Prop where
  | uncreated (e : ServiceError) : Writing title fingerprint draft [created title (.error e)] false
  | uncommitted (document : String) (e : ServiceError) (h : draft.requests ≠ []) :
    Writing title fingerprint draft
      [created title (.ok document), committed document draft.requests (.error e)] false
  | written (document : String) (h : draft.plans = []) :
    Writing title fingerprint draft
      (created title (.ok document) :: structureBatch document draft.requests) true
  | tabled (document : String) {phases : List Exchange} (ok : Bool) (h : draft.plans ≠ [])
      (shape : TablePhases document fingerprint draft.plans phases) :
    Writing title fingerprint draft
      (created title (.ok document) :: (structureBatch document draft.requests ++ phases)) ok

def terminalState (result : Except ExportError ExportReport) : ExportState :=
  if result.isOk then .done else .failed

/-- No call of the service follows one that failed. -/
def StopsAtFailure (t : List Exchange) : Prop :=
  t.Pairwise fun x y => x.isFailure → y.isService = false

structure ExportShape [Markdown.Parser] (s : ExportSettings) (markdown title : String) (t : List Exchange)
    (result : Except ExportError ExportReport) : Prop where
  /-- The tables may be skipped, and their cells too; the last state tells the result. -/
  states : ∃ tables, tables <+: [ExportState.materializingTables, .populatingTables] ∧
    t.filterMap state? =
      [.resolvingAssets, .emitting, .committingStructure] ++ tables ++ [terminalState result]
  calls : ∃ pictures resolved writing,
    ((Document.ofMarkdown markdown).resolve s.style s.options).Runs pictures resolved ∧
      (∀ x ∈ pictures, x.isPicture) ∧
      Writing title (Document.ofMarkdown markdown).fingerprint
        ((Document.ofMarkdown markdown).compile resolved.map s.options) writing result.isOk ∧
      t = entered .resolvingAssets :: (pictures ++ entered .emitting ::
        entered .committingStructure :: (writing ++ [entered (terminalState result)]))
  batches : [] ∉ t.filterMap batch?
  failures : StopsAtFailure t

section Calls

variable {β : Type} {t : List Exchange} {b : β}

theorem runs_create_bind {title : String} {f : Except ServiceError String → Process β} :
    (call (.create title) >>= f).Runs t b ↔
      ∃ (r : Except ServiceError String) (t' : List Exchange),
        (f r).Runs t' b ∧ t = created title r :: t' :=
  runs_call_bind

theorem runs_commit_bind {document : String} {rs : List Request}
    {f : Except ServiceError Unit → Process β} :
    (call (.commit document rs) >>= f).Runs t b ↔
      ∃ (r : Except ServiceError Unit) (t' : List Exchange),
        (f r).Runs t' b ∧ t = committed document rs r :: t' :=
  runs_call_bind

theorem runs_fetch_bind {document : String} {f : Except ServiceError Snapshot → Process β} :
    (call (.fetch document) >>= f).Runs t b ↔
      ∃ (r : Except ServiceError Snapshot) (t' : List Exchange),
        (f r).Runs t' b ∧ t = fetched document r :: t' :=
  runs_call_bind

theorem runs_enter_bind {state : ExportState} {f : Unit → Process β} :
    (call (.enter state) >>= f).Runs t b ↔
      ∃ t' : List Exchange, (f ()).Runs t' b ∧ t = entered state :: t' := by
  constructor
  · intro h
    obtain ⟨r, t', hnext, rfl⟩ := runs_call_bind.1 h
    exact ⟨t', hnext, rfl⟩
  · rintro ⟨t', h, rfl⟩
    exact runs_call_bind.2 ⟨(), t', h, rfl⟩

end Calls

theorem runs_commitBatch {document : String} {rs : List Request} {t : List Exchange}
    {r : Except TableError Unit} (h : (commitBatch document rs).Runs t r) :
    (rs = [] ∧ t = [] ∧ r = .ok ()) ∨
      (rs ≠ [] ∧ t = [committed document rs (.ok ())] ∧ r = .ok ()) ∨
      (rs ≠ [] ∧ ∃ e, t = [committed document rs (.error e)] ∧ r = .error (.service e)) := by
  unfold commitBatch at h
  split at h
  · rename_i hempty
    rw [runs_pure] at h
    exact .inl ⟨by simpa using hempty, h.1, h.2⟩
  · rename_i hempty
    have hne : rs ≠ [] := by simpa using hempty
    obtain ⟨reply, t', hnext, rfl⟩ := runs_commit_bind.1 h
    cases reply with
    | ok u =>
      obtain ⟨rfl, rfl⟩ := runs_pure.1 hnext
      exact .inr (.inl ⟨hne, rfl, rfl⟩)
    | error e =>
      obtain ⟨rfl, rfl⟩ := runs_pure.1 hnext
      exact .inr (.inr ⟨hne, e, rfl, rfl⟩)

theorem tablePhase_of_commitBatch {α : Type} {document : String} {rs : List Request}
    {f : Except TableError Unit → Process (Except TableError α)} {a : α} {t : List Exchange}
    {v : Except TableError α} (snapshot : Snapshot) (hok : f (.ok ()) = pure (.ok a))
    (herror : ∀ e, f (.error e) = pure (.error e)) (h : (commitBatch document rs >>= f).Runs t v) :
    TablePhase document (fetched document (.ok snapshot) :: t) v := by
  obtain ⟨t₁, r, t₂, hbatch, hrest, rfl⟩ := runs_bind.1 h
  rcases runs_commitBatch hbatch with ⟨-, rfl, rfl⟩ | ⟨hne, rfl, rfl⟩ | ⟨hne, e, rfl, rfl⟩
  · rw [hok] at hrest
    obtain ⟨rfl, rfl⟩ := runs_pure.1 hrest
    exact .unchanged snapshot a
  · rw [hok] at hrest
    obtain ⟨rfl, rfl⟩ := runs_pure.1 hrest
    exact .changed snapshot hne a
  · rw [herror] at hrest
    obtain ⟨rfl, rfl⟩ := runs_pure.1 hrest
    exact .uncommitted snapshot hne e

theorem placeSkeletons_phase {document fingerprint : String} {plans : List TablePlan}
    {t : List Exchange} {r : Except TableError Placement}
    (h : (placeSkeletons document fingerprint plans).Runs t r) : TablePhase document t r := by
  obtain ⟨reply, t', hnext, rfl⟩ := runs_fetch_bind.1 h
  cases reply with
  | error e =>
    obtain ⟨rfl, rfl⟩ := runs_pure.1 hnext
    exact .unfetched e
  | ok snapshot =>
    dsimp only at hnext
    split at hnext
    · obtain ⟨rfl, rfl⟩ := runs_pure.1 hnext
      exact .unchanged snapshot _
    · split at hnext
      · obtain ⟨rfl, rfl⟩ := runs_pure.1 hnext
        exact .refused snapshot rfl
      · exact tablePhase_of_commitBatch snapshot rfl (fun _ => rfl) hnext

theorem matchPlans_isMismatch {plans : List TablePlan} {pairs : List (Nat × Snapshot.Table)}
    {e : TableError} (h : matchPlans plans pairs = .error e) : e.isMismatch := by
  induction pairs with
  | nil => simp [matchPlans] at h
  | cons pair pairs ih =>
    obtain ⟨ordinal, table⟩ := pair
    simp only [matchPlans] at h
    split at h
    · exact ih h
    · rename_i plan _
      unfold checkShape at h
      dsimp only at h
      split at h
      · cases hrest : matchPlans plans pairs with
        | error e' =>
          rw [hrest] at h
          cases h
          exact ih hrest
        | ok rest =>
          rw [hrest] at h
          cases h
      · cases h
        rfl

theorem pairTables_isMismatch {snapshot : Snapshot} {plans : List TablePlan} {placed : List Nat}
    {e : TableError} (h : pairTables snapshot plans placed = .error e) : e.isMismatch := by
  unfold pairTables at h
  dsimp only at h
  split at h
  · exact matchPlans_isMismatch h
  · cases h
    rfl

theorem populateTables_phase {document : String} {plans : List TablePlan} {placed : List Nat}
    {t : List Exchange} {r : Except TableError Population}
    (h : (populateTables document plans placed).Runs t r) : TablePhase document t r := by
  obtain ⟨reply, t', hnext, rfl⟩ := runs_fetch_bind.1 h
  cases reply with
  | error e =>
    obtain ⟨rfl, rfl⟩ := runs_pure.1 hnext
    exact .unfetched e
  | ok snapshot =>
    dsimp only at hnext
    split at hnext
    · rename_i e hpairs
      obtain ⟨rfl, rfl⟩ := runs_pure.1 hnext
      exact .refused snapshot (TableError.isCheck_of_isMismatch (pairTables_isMismatch hpairs))
    · exact tablePhase_of_commitBatch snapshot rfl (fun _ => rfl) hnext

theorem fillPlaced_runs {document : String} {plans : List TablePlan} {placed : List Nat}
    {t : List Exchange} {r : Nat × List TableError}
    (h : (fillPlaced document plans placed).Runs t r) :
    (placed = [] ∧ t = []) ∨
      (placed ≠ [] ∧ ∃ v, (populateTables document plans placed).Runs t v) := by
  unfold fillPlaced at h
  split at h
  · rename_i hempty
    exact .inl ⟨by simpa using hempty, (runs_pure.1 h).1⟩
  · rename_i hempty
    obtain ⟨t₁, v, t₂, hrun, hrest, rfl⟩ := runs_bind.1 h
    have hnil : t₂ = [] := by cases v <;> exact (runs_pure.1 hrest).1
    rw [hnil, List.append_nil]
    exact .inr ⟨by simpa using hempty, v, hrun⟩

theorem materialize_phases {strict : Bool} {document fingerprint : String} {plans : List TablePlan}
    {t : List Exchange} {r : Except ExportError TableOutcome}
    (h : (materialize strict document fingerprint plans).Runs t r) :
    TablePhases document fingerprint plans t := by
  obtain ⟨t', hnext, rfl⟩ := runs_enter_bind.1 h
  obtain ⟨t₁, v, t₂, hplace, hrest, rfl⟩ := runs_bind.1 hnext
  have hshape := placeSkeletons_phase hplace
  cases v with
  | error e =>
    obtain ⟨rfl, -⟩ := runs_pure.1 hrest
    rw [List.append_nil]
    exact .unplaced hplace hshape
  | ok p =>
    obtain ⟨t₃, hafter, rfl⟩ := runs_enter_bind.1 hrest
    obtain ⟨t₄, filled, t₅, hfill, hend, rfl⟩ := runs_bind.1 hafter
    -- Only the outcome is put together behind the cells.
    have hnil : t₅ = [] := by
      dsimp only at hend
      split at hend <;> exact (runs_pure.1 hend).1
    subst hnil
    rw [List.append_nil]
    rcases fillPlaced_runs hfill with ⟨hempty, rfl⟩ | ⟨hne, v, hrun⟩
    · exact .unfilled hplace hshape hempty
    · exact .filled hplace hshape hne hrun (populateTables_phase hrun)

theorem runs_structureBatch {β : Type} {document : String} {rs : List Request}
    {f : Except ServiceError Unit → Process β} {t : List Exchange} {b : β}
    (h : (if rs.isEmpty then pure (.ok ()) >>= f else call (.commit document rs) >>= f).Runs t b) :
    (∃ t', (f (.ok ())).Runs t' b ∧ t = structureBatch document rs ++ t') ∨
      (rs ≠ [] ∧ ∃ e t', (f (.error e)).Runs t' b ∧
        t = committed document rs (.error e) :: t') := by
  split at h
  · rename_i hempty
    have hnil : rs = [] := by simpa using hempty
    obtain ⟨t₁, r, t₂, hpure, hrest, rfl⟩ := runs_bind.1 h
    obtain ⟨rfl, rfl⟩ := runs_pure.1 hpure
    exact .inl ⟨t₂, hrest, by simp [structureBatch, hnil]⟩
  · rename_i hempty
    have hne : rs ≠ [] := by simpa using hempty
    obtain ⟨r, t', hrest, rfl⟩ := runs_commit_bind.1 h
    cases r with
    | ok u => exact .inl ⟨t', hrest, by simp [structureBatch, hne]⟩
    | error e => exact .inr ⟨hne, e, t', hrest, rfl⟩

theorem writeDocument_writing {s : ExportSettings} {title : String} {doc : Document} {draft : Draft}
    {failures : List AssetFailure} {t : List Exchange} {r : Except ExportError ExportReport}
    (h : (writeDocument s title doc draft failures).Runs t r) :
    Writing title doc.fingerprint draft t r.isOk := by
  obtain ⟨reply, t', hnext, rfl⟩ := runs_create_bind.1 h
  cases reply with
  | error e =>
    obtain ⟨rfl, rfl⟩ := runs_pure.1 hnext
    exact .uncreated e
  | ok document =>
    rcases runs_structureBatch hnext with ⟨t₁, hrest, rfl⟩ | ⟨hne, e, t₁, hrest, rfl⟩
    · dsimp only at hrest
      split at hrest
      · rename_i hempty
        obtain ⟨rfl, rfl⟩ := runs_pure.1 hrest
        rw [List.append_nil]
        exact .written document (by simpa using hempty)
      · rename_i hempty
        obtain ⟨t₂, v, t₃, hrun, hend, rfl⟩ := runs_bind.1 hrest
        have hnil : t₃ = [] := by cases v <;> exact (runs_pure.1 hend).1
        subst hnil
        rw [List.append_nil]
        exact .tabled document _ (by simpa using hempty) (materialize_phases hrun)
    · obtain ⟨rfl, rfl⟩ := runs_pure.1 hrest
      exact .uncommitted document e hne

theorem captureMounted_only (options : CaptureOptions) :
    (captureMounted options).Only fun c => ∀ r, isPicture ⟨c, r⟩ := by
  refine .bind (.call fun _ => rfl) fun mounted => ?_
  cases mounted with
  | none => exact .pure _
  | some e => exact .call fun _ => rfl

theorem AssetTarget.resolve_only (style : PictureStyle) (target : AssetTarget) :
    (target.resolve style).Only fun c => ∀ r, isPicture ⟨c, r⟩ := by
  refine .bind (.call fun _ => rfl) fun _ => .bind (.call fun _ => rfl) fun rendered => ?_
  cases rendered with
  | error e => exact .bind (.call fun _ => rfl) fun _ => .pure _
  | ok element =>
    refine .bind (.call fun _ => rfl) fun _ => .bind (captureMounted_only _) fun captured => ?_
    refine .bind (.call fun _ => rfl) fun _ => ?_
    cases captured with
    | error e => exact .pure _
    | ok image =>
      refine .bind (.call fun _ => rfl) fun uploaded => ?_
      cases uploaded <;> exact .pure _

theorem resolveAll_only (style : PictureStyle) (resolved : ResolvedAssets) (ts : List AssetTarget) :
    (resolveAll style resolved ts).Only fun c => ∀ r, isPicture ⟨c, r⟩ := by
  induction ts generalizing resolved with
  | nil => exact .pure _
  | cons target ts ih => exact .bind (target.resolve_only style) fun result => ih _

theorem runs_resolve {s : ExportSettings} {doc : Document} {t : List Exchange} {r : ResolvedAssets}
    (h : (doc.resolve s.style s.options).Runs t r) : ∀ x ∈ t, x.isPicture :=
  fun x hx => h.only (resolveAll_only _ _ _) x hx x.2

theorem isPicture_iff {x : Exchange} : x.isPicture ↔ x.state? = none ∧ x.isService = false := by
  simp [isPicture]

theorem batch?_eq_none {x : Exchange} (h : x.isService = false) : x.batch? = none := by
  obtain ⟨c, r⟩ := x
  cases c <;> first | rfl | cases h

theorem isFailure_eq_false {x : Exchange} (h : x.isService = false) : x.isFailure = false := by
  obtain ⟨c, r⟩ := x
  cases c <;> first | rfl | cases h

section Stops

variable {t t' : List Exchange} {x : Exchange}

theorem StopsAtFailure.append (h : StopsAtFailure t) (h' : StopsAtFailure t')
    (hfail : ∀ x ∈ t, x.isFailure = false) : StopsAtFailure (t ++ t') := by
  refine List.pairwise_append.2 ⟨h, h', fun x hx y _ hx' => ?_⟩
  rw [hfail x hx] at hx'
  cases hx'

theorem StopsAtFailure.cons (h : StopsAtFailure t) (hx : x.isFailure = false) :
    StopsAtFailure (x :: t) :=
  StopsAtFailure.append (List.pairwise_singleton _ x) h (by simpa using hx)

theorem stopsAtFailure_of_service (h : ∀ x ∈ t, x.isService = false) : StopsAtFailure t := by
  induction t with
  | nil => exact .nil
  | cons x t ih =>
    rw [List.forall_mem_cons] at h
    exact List.pairwise_cons.2 ⟨fun y hy _ => h.2 y hy, ih h.2⟩

theorem StopsAtFailure.concat (h : StopsAtFailure t) (hx : x.isService = false) :
    StopsAtFailure (t ++ [x]) :=
  List.pairwise_append.2 ⟨h, List.pairwise_singleton _ x, fun _ _ y hy _ => by
    rw [List.mem_singleton.1 hy]
    exact hx⟩

end Stops

section Phase

variable {document : String} {α : Type} {t : List Exchange} {v : Except TableError α}

theorem TablePhase.states (h : TablePhase document t v) : t.filterMap state? = [] := by
  cases h <;> rfl

theorem TablePhase.batches (h : TablePhase document t v) : [] ∉ t.filterMap batch? := by
  cases h with
  | uncommitted s hne e => simpa [batch?] using hne.symm
  | changed s hne a => simpa [batch?] using hne.symm
  | _ => simp [batch?]

theorem TablePhase.stops (h : TablePhase document t v) : StopsAtFailure t := by
  cases h <;> simp [StopsAtFailure, isFailure, Except.isOk, Except.toBool]

theorem TablePhase.succeeds {a : α} (h : TablePhase document t (.ok a)) :
    ∀ x ∈ t, x.isFailure = false := by
  cases h <;> simp [isFailure, Except.isOk, Except.toBool]

end Phase

section Writing

variable {document title fingerprint : String} {plans : List TablePlan} {draft : Draft}
  {requests : List Request} {t : List Exchange} {ok : Bool}

theorem TablePhases.states (h : TablePhases document fingerprint plans t) :
    t.filterMap state? <+: [.materializingTables, .populatingTables] := by
  cases h with
  | unplaced run shape => simp [state?, shape.states]
  | unfilled run shape h => simp [state?, shape.states]
  | filled run shape h run' shape' => simp [state?, shape.states, shape'.states]

theorem TablePhases.batches (h : TablePhases document fingerprint plans t) :
    [] ∉ t.filterMap batch? := by
  cases h with
  | unplaced run shape => exact shape.batches
  | unfilled run shape h => simpa [batch?] using shape.batches
  | filled run shape h run' shape' =>
    rw [List.filterMap_cons_none rfl, List.filterMap_append, List.filterMap_cons_none rfl,
      List.mem_append, not_or]
    exact ⟨shape.batches, shape'.batches⟩

theorem TablePhases.stops (h : TablePhases document fingerprint plans t) : StopsAtFailure t := by
  cases h with
  | unplaced run shape => exact shape.stops.cons rfl
  | unfilled run shape h => exact (shape.stops.concat rfl).cons rfl
  | filled run shape h run' shape' =>
    exact (shape.stops.append (shape'.stops.cons rfl) shape.succeeds).cons rfl

theorem structureBatch_eq (document : String) (requests : List Request) :
    structureBatch document requests = [] ∨
      requests ≠ [] ∧
        structureBatch document requests = [committed document requests (.ok ())] := by
  by_cases h : requests = []
  · exact .inl (if_pos h)
  · exact .inr ⟨h, if_neg h⟩

theorem Writing.states (h : Writing title fingerprint draft t ok) :
    t.filterMap state? <+: [.materializingTables, .populatingTables] := by
  cases h with
  | uncreated e => exact List.nil_prefix
  | uncommitted document e h => exact List.nil_prefix
  | written document h =>
    rcases structureBatch_eq document draft.requests with hs | ⟨-, hs⟩ <;> rw [hs] <;>
      exact List.nil_prefix
  | tabled document ok h shape =>
    rcases structureBatch_eq document draft.requests with hs | ⟨-, hs⟩ <;> rw [hs] <;>
      exact shape.states

theorem Writing.batches (h : Writing title fingerprint draft t ok) : [] ∉ t.filterMap batch? := by
  cases h with
  | uncreated e => simp [batch?]
  | uncommitted document e h => simpa [batch?] using h.symm
  | written document h =>
    rcases structureBatch_eq document draft.requests with hs | ⟨hne, hs⟩ <;> rw [hs]
    · simp [batch?]
    · simpa [batch?] using hne.symm
  | tabled document ok h shape =>
    rcases structureBatch_eq document draft.requests with hs | ⟨hne, hs⟩ <;> rw [hs]
    · exact shape.batches
    · exact List.not_mem_cons_of_ne_of_not_mem hne.symm shape.batches

theorem Writing.stops (h : Writing title fingerprint draft t ok) : StopsAtFailure t := by
  cases h with
  | uncreated e => exact List.pairwise_singleton _ _
  | uncommitted document e h => exact StopsAtFailure.cons (List.pairwise_singleton _ _) rfl
  | written document h =>
    rcases structureBatch_eq document draft.requests with hs | ⟨-, hs⟩ <;> rw [hs]
    · exact List.pairwise_singleton _ _
    · exact StopsAtFailure.cons (List.pairwise_singleton _ _) rfl
  | tabled document ok h shape =>
    rcases structureBatch_eq document draft.requests with hs | ⟨-, hs⟩ <;> rw [hs]
    · exact shape.stops.cons rfl
    · exact (shape.stops.cons rfl).cons rfl

end Writing

section Export

variable [Markdown.Parser] {s : ExportSettings} {markdown title : String} {t : List Exchange}
  {result : Except ExportError ExportReport}

theorem exportBody_parts (h : (exportBody s markdown title).Runs t result) :
    ∃ pictures resolved writing,
      ((Document.ofMarkdown markdown).resolve s.style s.options).Runs pictures resolved ∧
        (writeDocument s title (Document.ofMarkdown markdown)
          ((Document.ofMarkdown markdown).compile resolved.map s.options)
          resolved.failures).Runs writing result ∧
        t = entered .resolvingAssets :: (pictures ++ entered .emitting ::
          entered .committingStructure :: writing) := by
  obtain ⟨t₁, hnext, rfl⟩ := runs_enter_bind.1 h
  obtain ⟨pictures, resolved, t₂, hpictures, hrest, rfl⟩ := runs_bind.1 hnext
  obtain ⟨t₃, hcommitting, rfl⟩ := runs_enter_bind.1 hrest
  obtain ⟨writing, hwriting, rfl⟩ := runs_enter_bind.1 hcommitting
  exact ⟨pictures, resolved, writing, hpictures, hwriting, rfl⟩

theorem exportBody_runs (h : (exportBody s markdown title).Runs t result) :
    ∃ pictures resolved writing,
      ((Document.ofMarkdown markdown).resolve s.style s.options).Runs pictures resolved ∧
        Writing title (Document.ofMarkdown markdown).fingerprint
          ((Document.ofMarkdown markdown).compile resolved.map s.options) writing result.isOk ∧
        t = entered .resolvingAssets :: (pictures ++ entered .emitting ::
          entered .committingStructure :: writing) := by
  obtain ⟨pictures, resolved, writing, hpictures, hwriting, ht⟩ := exportBody_parts h
  exact ⟨pictures, resolved, writing, hpictures, writeDocument_writing hwriting, ht⟩

theorem exportMarkdown_runs (h : (exportMarkdown s markdown title).Runs t result) :
    ∃ t', (exportBody s markdown title).Runs t' result ∧
      t = t' ++ [entered (terminalState result)] := by
  obtain ⟨t₁, r, t₂, hbody, hrest, rfl⟩ := runs_bind.1 h
  cases r with
  | ok report =>
    obtain ⟨t₃, hend, rfl⟩ := runs_enter_bind.1 hrest
    obtain ⟨rfl, rfl⟩ := runs_pure.1 hend
    exact ⟨t₁, hbody, rfl⟩
  | error e =>
    obtain ⟨t₃, hend, rfl⟩ := runs_enter_bind.1 hrest
    obtain ⟨rfl, rfl⟩ := runs_pure.1 hend
    exact ⟨t₁, hbody, rfl⟩

theorem exportMarkdown_shape (h : (exportMarkdown s markdown title).Runs t result) :
    ExportShape s markdown title t result := by
  obtain ⟨t', hbody, rfl⟩ := exportMarkdown_runs h
  obtain ⟨pictures, resolved, writing, hrun, hwriting, rfl⟩ := exportBody_runs hbody
  have hpictures := runs_resolve hrun
  have hstates : pictures.filterMap state? = [] :=
    List.filterMap_eq_nil_iff.2 fun x hx => (isPicture_iff.1 (hpictures x hx)).1
  have hservice : ∀ x ∈ pictures, x.isService = false := fun x hx =>
    (isPicture_iff.1 (hpictures x hx)).2
  have hbatches : pictures.filterMap batch? = [] :=
    List.filterMap_eq_nil_iff.2 fun x hx => batch?_eq_none (hservice x hx)
  refine ⟨⟨_, hwriting.states, ?_⟩, ⟨pictures, resolved, writing, hrun, hpictures, hwriting, ?_⟩,
    ?_, ?_⟩
  · simp [state?, hstates]
  · simp
  · have hend : [entered (terminalState result)].filterMap batch? = [] := rfl
    rw [List.filterMap_append, hend, List.append_nil, List.filterMap_cons_none rfl,
      List.filterMap_append, hbatches]
    exact hwriting.batches
  · have htail : StopsAtFailure (entered .emitting :: entered .committingStructure :: writing) :=
      (hwriting.stops.cons rfl).cons rfl
    exact (((stopsAtFailure_of_service hservice).append htail fun x hx =>
      isFailure_eq_false (hservice x hx)).cons rfl).concat rfl

end Export

def plainSettings : ExportSettings := ⟨.default, ⟨"default", ⟨"#ffffff", .ofNat 2, true⟩⟩⟩

def oneTableReport : ExportReport := ⟨"Report", 0, [], .complete 1⟩

/-- An export of one table to a service that does as it is told. -/
def oneTableLog : List Exchange :=
  (exportMarkdown plainSettings "| A |\n|---|" "Report").log Remote.Service.reference.answer []

theorem runs_oneTable :
    (exportMarkdown plainSettings "| A |\n|---|" "Report").Runs oneTableLog (.ok oneTableReport) := by
  have hreport : (Remote.Service.reference.run
      (exportMarkdown plainSettings "| A |\n|---|" "Report") []).1 = .ok oneTableReport := by
    decide +kernel
  rw [← hreport]
  exact runs_log Remote.Service.reference.answer _ _

theorem exportMarkdown_shape_oneTable :
    ExportShape plainSettings "| A |\n|---|" "Report" oneTableLog (.ok oneTableReport) ∧
      oneTableLog.filterMap state? = [.resolvingAssets, .emitting, .committingStructure,
        .materializingTables, .populatingTables, .done] ∧
      oneTableLog.filterMap batch? =
        [[.insertText 1 "[[QUIRE_TABLE_3fc002680ba4_0]]", .insertText 31 "\n"],
          [.delete ⟨1, 31⟩, .insertTable 1 1 1], [.insertText 4 "A"]] :=
  ⟨exportMarkdown_shape runs_oneTable, by decide +kernel, by decide +kernel⟩

end Folio
