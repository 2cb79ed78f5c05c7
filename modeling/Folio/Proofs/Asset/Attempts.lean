import Mathlib.Data.List.Basic
import Folio.Asset.Resolve
import Folio.Proofs.Asset.Holding
import Folio.Proofs.Document.Numbering
/-!
Every resolution is a sequence of attempts, one for each target and one after the other, each with one
of four ends (`Attempt.Made`). None of them is lost, repeated or mixed up with another, whatever the
renderer, the rasterizer and the store answer (`resolve_isolated`).
-/
set_option autoImplicit false

namespace Folio

open Process Exchange

structure Attempt where
  target : AssetTarget
  calls : List Exchange
  result : Except AssetError String

/-- From the start of an attempt to the question for a capture, which is about the element that the
renderer has given for this very target. -/
def AssetTarget.mounting (style : PictureStyle) (target : AssetTarget) (e : Element) :
    List Exchange :=
  [acquired, rendered target.source target.kind style.theme (.ok e), mountedOn e, found (some e)]

namespace Attempt

/-- An attempt stops at its first error. The viewport is free again before anything is published. -/
inductive Made (style : PictureStyle) : Attempt → Prop where
  | unrendered (target : AssetTarget) (e : RenderError) :
    Made style ⟨target,
      [acquired, rendered target.source target.kind style.theme (.error e), released],
      .error (.render e)⟩
  | uncaptured (target : AssetTarget) (element : Element) (e : CaptureError) :
    Made style ⟨target,
      target.mounting style element ++ [captured element style.capture (.error e), released],
      .error (.capture e)⟩
  | unpublished (target : AssetTarget) (element : Element) (image : Image) (e : UploadError) :
    Made style ⟨target,
      target.mounting style element ++
        [captured element style.capture (.ok image), released, uploaded image (.error e)],
      .error (.upload e)⟩
  | published (target : AssetTarget) (element : Element) (image : Image) (url : String) :
    Made style ⟨target,
      target.mounting style element ++
        [captured element style.capture (.ok image), released, uploaded image (.ok url)],
      .ok url⟩

def failure? (a : Attempt) : Option AssetFailure :=
  match a.result with
  | .ok _ => none
  | .error e => some ⟨a.target.id, a.target.kind, e⟩

def record (r : ResolvedAssets) (a : Attempt) : ResolvedAssets := r.record a.target a.result

end Attempt

/-- What is mounted is what was rendered, so the capture is never without an element. -/
theorem captureMounted_runs {options : CaptureOptions} {e : Element} {v : Viewport}
    {t : List Exchange} {r : Except CaptureError Image}
    (h : (captureMounted options).Runs t r) (hv : Viewport.follow? ⟨true, some e⟩ t = some v) :
    t = [found (some e), captured e options r] ∧ v = ⟨true, some e⟩ := by
  obtain ⟨mounted, t', hnext, rfl⟩ := runs_call_bind.1 h
  obtain ⟨u, hu, ht'⟩ := Option.bind_eq_some_iff.1 hv
  obtain ⟨hmounted, rfl⟩ := Viewport.eq_of_found? hu
  cases hmounted
  rw [runs_call.1 hnext] at ht' ⊢
  cases ht'
  exact ⟨rfl, rfl⟩

theorem AssetTarget.resolve_runs {style : PictureStyle} {target : AssetTarget} {v : Viewport}
    {t : List Exchange} {r : Except AssetError String} (h : (target.resolve style).Runs t r)
    (hv : Viewport.empty.follow? t = some v) :
    (⟨target, t, r⟩ : Attempt).Made style ∧ v = .empty := by
  obtain ⟨⟨⟩, t₁, hnext, rfl⟩ := runs_call_bind.1 h
  obtain ⟨reply, t₂, hrest, rfl⟩ := runs_call_bind.1 hnext
  cases reply with
  | error e =>
    obtain ⟨⟨⟩, t₃, hend, rfl⟩ := runs_call_bind.1 hrest
    obtain ⟨rfl, rfl⟩ := runs_pure.1 hend
    cases hv
    exact ⟨.unrendered target e, rfl⟩
  | ok element =>
    obtain ⟨⟨⟩, t₃, hmounted, rfl⟩ := runs_call_bind.1 hrest
    obtain ⟨t₄, reply, t₅, hcapture, hafter, rfl⟩ := runs_bind.1 hmounted
    obtain ⟨u, hu, ht₅⟩ := Viewport.follow?_append_some hv
    obtain ⟨rfl, rfl⟩ := captureMounted_runs hcapture hu
    obtain ⟨⟨⟩, t₆, hreleased, rfl⟩ := runs_call_bind.1 hafter
    cases reply with
    | error e =>
      obtain ⟨rfl, rfl⟩ := runs_pure.1 hreleased
      cases ht₅
      exact ⟨.uncaptured target element e, rfl⟩
    | ok image =>
      obtain ⟨reply, t₇, hend, rfl⟩ := runs_call_bind.1 hreleased
      cases reply with
      | error e =>
        obtain ⟨rfl, rfl⟩ := runs_pure.1 hend
        cases ht₅
        exact ⟨.unpublished target element image e, rfl⟩
      | ok url =>
        obtain ⟨rfl, rfl⟩ := runs_pure.1 hend
        cases ht₅
        exact ⟨.published target element image url, rfl⟩

theorem resolveAll_runs {style : PictureStyle} {resolved resolved' : ResolvedAssets}
    {targets : List AssetTarget} {v : Viewport} {t : List Exchange}
    (h : (resolveAll style resolved targets).Runs t resolved')
    (hv : Viewport.empty.follow? t = some v) :
    ∃ attempts : List Attempt, (∀ a ∈ attempts, a.Made style) ∧ attempts.map (·.target) = targets ∧
      t = attempts.flatMap (·.calls) ∧ resolved' = attempts.foldl Attempt.record resolved ∧
      v = .empty := by
  induction targets generalizing resolved t with
  | nil =>
    obtain ⟨rfl, rfl⟩ := runs_pure.1 h
    cases hv
    exact ⟨[], by simp, rfl, rfl, rfl, rfl⟩
  | cons target targets ih =>
    obtain ⟨t₁, r, t₂, hfirst, hrest, rfl⟩ := runs_bind.1 h
    obtain ⟨u, hu, ht₂⟩ := Viewport.follow?_append_some hv
    obtain ⟨hmade, rfl⟩ := AssetTarget.resolve_runs hfirst hu
    obtain ⟨attempts, hall, htargets, rfl, hrecord, hempty⟩ := ih hrest ht₂
    refine ⟨⟨target, t₁, r⟩ :: attempts, List.forall_mem_cons.2 ⟨hmade, hall⟩, ?_, rfl, hrecord,
      hempty⟩
    rw [List.map_cons, htargets]

section Record

variable {attempts : List Attempt} {resolved : ResolvedAssets}

theorem failures_record (attempts : List Attempt) (resolved : ResolvedAssets) :
    (attempts.foldl Attempt.record resolved).failures =
      resolved.failures ++ attempts.filterMap Attempt.failure? := by
  induction attempts generalizing resolved with
  | nil => simp
  | cons a attempts ih =>
    obtain ⟨target, calls, result⟩ := a
    rw [List.foldl_cons, ih, List.filterMap_cons]
    cases result with
    | ok url => rfl
    | error e => simp [Attempt.record, ResolvedAssets.record, Attempt.failure?]

theorem AssetMap.insertEntry_perm {id : Nat} (url : String) {es : List (Nat × String)}
    (h : id ∉ es.map Prod.fst) :
    ((insertEntry id url es).map Prod.fst).Perm (id :: es.map Prod.fst) := by
  induction es with
  | nil => exact .refl _
  | cons e es ih =>
    obtain ⟨i, u⟩ := e
    rw [List.map_cons, List.mem_cons, not_or] at h
    have hne : (id == i) = false := beq_eq_false_iff_ne.2 h.1
    simp only [insertEntry, hne]
    split
    · exact .refl _
    · exact ((ih h.2).cons i).trans (.swap id i _)

theorem keys_record_perm (hdistinct : (attempts.map (·.target.id)).Nodup)
    (hfresh : ∀ a ∈ attempts, a.target.id ∉ resolved.map.entries.map Prod.fst) :
    ((attempts.foldl Attempt.record resolved).map.entries.map Prod.fst ++
        (attempts.filterMap Attempt.failure?).map (·.node)).Perm
      (resolved.map.entries.map Prod.fst ++ attempts.map (·.target.id)) := by
  induction attempts generalizing resolved with
  | nil => exact .refl _
  | cons a attempts ih =>
    obtain ⟨target, calls, result⟩ := a
    rw [List.map_cons, List.nodup_cons] at hdistinct
    rw [List.forall_mem_cons] at hfresh
    rw [List.foldl_cons, List.filterMap_cons, List.map_cons]
    cases result with
    | ok url =>
      have hkeys := AssetMap.insertEntry_perm url hfresh.1
      refine (ih hdistinct.2 fun b hb hmem => ?_).trans ?_
      · rcases List.mem_cons.1 (hkeys.mem_iff.1 hmem) with hb' | hb'
        · exact hdistinct.1 (List.mem_map.2 ⟨b, hb, hb'⟩)
        · exact hfresh.2 b hb hb'
      · exact (hkeys.append_right _).trans List.perm_middle.symm
    | error e =>
      have hfresh' : ∀ b ∈ attempts, b.target.id ∉
          (Attempt.record resolved ⟨target, calls, .error e⟩).map.entries.map Prod.fst := hfresh.2
      have hrest := ih hdistinct.2 hfresh'
      exact List.perm_middle.trans ((hrest.cons _).trans List.perm_middle.symm)

theorem get?_record (hdistinct : (attempts.map (·.target.id)).Nodup)
    (hfresh : ∀ a ∈ attempts, resolved.map.get? a.target.id = none) (id : Nat) (url : String) :
    (attempts.foldl Attempt.record resolved).map.get? id = some url ↔
      resolved.map.get? id = some url ∨
        ∃ a ∈ attempts, a.target.id = id ∧ a.result = .ok url := by
  induction attempts generalizing resolved with
  | nil => simp
  | cons a attempts ih =>
    obtain ⟨target, calls, result⟩ := a
    rw [List.map_cons, List.nodup_cons] at hdistinct
    rw [List.forall_mem_cons] at hfresh
    rw [List.foldl_cons, List.exists_mem_cons_iff]
    cases result with
    | error e =>
      have hfresh' : ∀ b ∈ attempts,
          (Attempt.record resolved ⟨target, calls, .error e⟩).map.get? b.target.id = none := hfresh.2
      rw [ih hdistinct.2 hfresh']
      simp [Attempt.record, ResolvedAssets.record]
    | ok u =>
      have hget : ∀ i, (Attempt.record resolved ⟨target, calls, .ok u⟩).map.get? i =
          if i = target.id then some u else resolved.map.get? i := fun i =>
        AssetMap.get?_insert resolved.map target.id u i
      rw [ih hdistinct.2, hget]
      · by_cases hid : id = target.id
        · subst hid
          simp [hfresh.1]
        · simp [hid, Ne.symm hid]
      · intro b hb
        have hne : b.target.id ≠ target.id := fun heq =>
          hdistinct.1 (List.mem_map.2 ⟨b, hb, heq⟩)
        rw [hget, if_neg hne]
        exact hfresh.2 b hb

end Record

def Exchange.rendering? : Exchange → Option (String × AssetKind × String)
  | ⟨.render source kind theme, _⟩ => some (source, kind, theme)
  | _ => none

theorem Attempt.Made.renderings {style : PictureStyle} {a : Attempt} (h : a.Made style) :
    a.calls.filterMap rendering? = [(a.target.source, a.target.kind, style.theme)] := by
  cases h <;> rfl

/-- A resolution, attempt by attempt: what was asked, in which order, and what is left of it. -/
structure Resolution (style : PictureStyle) (targets : List AssetTarget) (t : List Exchange)
    (resolved : ResolvedAssets) (attempts : List Attempt) : Prop where
  made : ∀ a ∈ attempts, a.Made style
  inOrder : attempts.map (·.target) = targets
  calls : t = attempts.flatMap (·.calls)
  renderings : t.filterMap rendering? = targets.map fun u => (u.source, u.kind, style.theme)
  published : ∀ id url, resolved.map.get? id = some url ↔
    ∃ a ∈ attempts, a.target.id = id ∧ a.result = .ok url
  failures : resolved.failures = attempts.filterMap Attempt.failure?
  divided : (resolved.map.entries.map Prod.fst ++ resolved.failures.map (·.node)).Perm
    (targets.map (·.id))
  distinct : (resolved.map.entries.map Prod.fst ++ resolved.failures.map (·.node)).Nodup

/-- Whatever the services answer, a resolution makes one attempt for each target of its document, in
their order, and sorts the targets into those with an address and those with an error. -/
theorem resolve_isolated {ns : List Node} {source : String} {style : PictureStyle}
    {options : ExportOptions} {t : List Exchange} {resolved : ResolvedAssets} {v : Viewport}
    (h : (((Document.ofNodes ns).withSource source).resolve style options).Runs t resolved)
    (hv : Viewport.empty.follow? t = some v) :
    ∃ attempts, Resolution style (((Document.ofNodes ns).withSource source).targets options) t
      resolved attempts := by
  obtain ⟨attempts, hmade, htargets, ht, hrecord, -⟩ := resolveAll_runs h hv
  have hids : attempts.map (·.target.id) =
      (((Document.ofNodes ns).withSource source).targets options).map (·.id) := by
    rw [← htargets, List.map_map]
    rfl
  have hdistinct : (attempts.map (·.target.id)).Nodup := by
    rw [hids]
    exact Document.nodup_targets ns source options
  have hfailures : resolved.failures = attempts.filterMap Attempt.failure? := by
    rw [hrecord, failures_record]
    rfl
  have hdivided : (resolved.map.entries.map Prod.fst ++ resolved.failures.map (·.node)).Perm
      (attempts.map (·.target.id)) := by
    rw [hfailures, hrecord]
    exact keys_record_perm hdistinct fun _ _ => List.not_mem_nil
  refine ⟨attempts, hmade, htargets, ht, ?_, ?_, hfailures, hids ▸ hdivided,
    hdivided.nodup_iff.2 hdistinct⟩
  · rw [ht, List.filterMap_flatMap, ← htargets, List.map_map]
    refine (List.flatMap_congr fun a ha => (hmade a ha).renderings).trans ?_
    exact List.map_eq_flatMap.symm
  · intro id url
    rw [hrecord, get?_record hdistinct fun _ _ => rfl]
    simp [AssetMap.get?, AssetMap.empty]

def pickyServices : Services (StateM Unit) where
  render source kind _ :=
    pure (if source.isEmpty then .error (.badSource kind.label "no text") else .ok ⟨.png, [80]⟩)
  capture e _ := return captureRaster e
  upload _ := return .ok "https://cdn.test/picture.png"
  create _ := return .error .transport
  commit _ _ := return .error .transport
  fetch _ := return .error .transport
  observe _ := return ()

def twoDiagrams : List Node :=
  [.leaf (.code (some "Mermaid") ""), .leaf (.code (some "mermaid") "graph")]

def oneRefused : ResolvedAssets :=
  ⟨⟨[(2, "https://cdn.test/picture.png")]⟩,
    [⟨1, .diagram "mermaid", .render (.badSource "mermaid" "no text")⟩]⟩

theorem runs_oneRefused (style : PictureStyle) :
    ∃ t v, (((Document.ofNodes twoDiagrams).withSource "").resolve style .default).Runs t
      oneRefused ∧ Viewport.empty.follow? t = some v := by
  have htargets : ((Document.ofNodes twoDiagrams).withSource "").targets .default =
      [⟨1, .diagram "mermaid", ""⟩, ⟨2, .diagram "mermaid", "graph"⟩] := by decide +kernel
  have hresolved : (((((Document.ofNodes twoDiagrams).withSource "").resolve style .default).run
      pickyServices.answer).run .empty).run () = ((oneRefused, .empty), ()) := by
    rw [Document.resolve, htargets]
    rfl
  obtain ⟨t, v, ht, hv⟩ := pickyServices.exists_followed_runs (v := .empty)
    (Document.resolve_careful _ style .default) ()
  rw [hresolved] at ht
  exact ⟨t, v, ht, hv⟩

theorem resolution_oneRefused :
    ∃ t v attempts, (((Document.ofNodes twoDiagrams).withSource "").resolve
        ⟨"default", ⟨"#ffffff", .ofNat 2, true⟩⟩ .default).Runs t oneRefused ∧
      Viewport.empty.follow? t = some v ∧
      Resolution ⟨"default", ⟨"#ffffff", .ofNat 2, true⟩⟩
        (((Document.ofNodes twoDiagrams).withSource "").targets .default) t oneRefused attempts := by
  obtain ⟨t, v, ht, hv⟩ := runs_oneRefused ⟨"default", ⟨"#ffffff", .ofNat 2, true⟩⟩
  obtain ⟨attempts, h⟩ := resolve_isolated ht hv
  exact ⟨t, v, attempts, ht, hv, h⟩

end Folio
