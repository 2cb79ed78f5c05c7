import Folio.Asset.Resolve
import Folio.Export.Services
import Folio.Proofs.Export.Trace
/-!
Who holds the viewport. A careful process takes it only while it does not hold it, and touches it only
while it does; what a viewport answers along such a run is what its holder has mounted. Services
that keep a viewport of their own answer so (`Services.exists_followed_runs`).
-/
set_option autoImplicit false

namespace Folio

namespace Exchange

abbrev acquired : Exchange := ⟨.acquire, ()⟩

abbrev released : Exchange := ⟨.release, ()⟩

abbrev mountedOn (e : Element) : Exchange := ⟨.mount e, ()⟩

abbrev found (e : Option Element) : Exchange := ⟨.mounted, e⟩

abbrev rendered (source : String) (kind : AssetKind) (theme : String)
    (r : Except RenderError Element) : Exchange :=
  ⟨.render source kind theme, r⟩

abbrev captured (e : Element) (options : CaptureOptions) (r : Except CaptureError Image) :
    Exchange :=
  ⟨.capture e options, r⟩

abbrev uploaded (image : Image) (r : Except UploadError String) : Exchange := ⟨.upload image, r⟩

end Exchange

open Exchange

namespace Call

def heldAfter (held : Bool) : Call → Bool
  | .acquire => true
  | .release => false
  | _ => held

def isAllowed (held : Bool) : Call → Bool
  | .acquire | .upload _ => !held
  | .release | .mount _ | .mounted => held
  | _ => true

end Call

def heldBehind (held : Bool) (t : List Exchange) : Bool :=
  t.foldl (fun held x => x.1.heldAfter held) held

def isHolding (t : List Exchange) : Bool := heldBehind false t

@[simp] theorem heldBehind_cons (held : Bool) (x : Exchange) (t : List Exchange) :
    heldBehind held (x :: t) = heldBehind (x.1.heldAfter held) t := rfl

theorem isHolding_concat (t : List Exchange) (x : Exchange) :
    isHolding (t ++ [x]) = x.1.heldAfter (isHolding t) := by
  simp [isHolding, heldBehind]

namespace Process

variable {α β : Type}

/-- Only asks for what is allowed, from where the viewport is held or not to where it is or not. -/
def Careful : Bool → Process α → Bool → Prop
  | start, .done _, stop => start = stop
  | start, .ask c next, stop =>
    c.isAllowed start = true ∧ ∀ r, (next r).Careful (c.heldAfter start) stop

theorem Careful.pure (held : Bool) (a : α) : (Pure.pure a : Process α).Careful held held := rfl

theorem Careful.call {held : Bool} {c : Call} (h : c.isAllowed held = true) :
    (Process.call c).Careful held (c.heldAfter held) :=
  ⟨h, fun _ => rfl⟩

theorem Careful.bind {start mid stop : Bool} {p : Process α} {f : α → Process β}
    (hp : p.Careful start mid) (hf : ∀ a, (f a).Careful mid stop) :
    (p >>= f).Careful start stop := by
  change (p.bind f).Careful start stop
  induction p generalizing start with
  | done a =>
    have hstart : start = mid := hp
    rw [hstart]
    exact hf a
  | ask c next ih => exact ⟨hp.1, fun r => ih r (hp.2 r)⟩

theorem Asks.isAllowed {p : Process α} {start stop : Bool} {t : List Exchange} {c : Call}
    (h : p.Asks t c) (hp : p.Careful start stop) : c.isAllowed (heldBehind start t) = true := by
  induction h generalizing start with
  | now c next => exact hp.1
  | later r h ih => exact ih (hp.2 r)

end Process

theorem captureMounted_careful (options : CaptureOptions) :
    (captureMounted options).Careful true true := by
  refine .bind (.call rfl) fun mounted => ?_
  cases mounted with
  | none => exact .pure true _
  | some e => exact .call rfl

theorem AssetTarget.resolve_careful (style : PictureStyle) (target : AssetTarget) :
    (target.resolve style).Careful false false := by
  refine .bind (.call rfl) fun _ => .bind (.call rfl) fun rendered => ?_
  cases rendered with
  | error e => exact .bind (.call rfl) fun _ => .pure false _
  | ok element =>
    refine .bind (.call rfl) fun _ => .bind (captureMounted_careful _) fun captured => ?_
    refine .bind (.call rfl) fun _ => ?_
    cases captured with
    | error e => exact .pure false _
    | ok image =>
      refine .bind (.call rfl) fun uploaded => ?_
      cases uploaded <;> exact .pure false _

theorem resolveAll_careful (style : PictureStyle) (resolved : ResolvedAssets)
    (targets : List AssetTarget) : (resolveAll style resolved targets).Careful false false := by
  induction targets generalizing resolved with
  | nil => exact .pure false _
  | cons target targets ih => exact .bind (target.resolve_careful style) fun _ => ih _

theorem Document.resolve_careful (d : Document) (style : PictureStyle) (options : ExportOptions) :
    (d.resolve style options).Careful false false :=
  resolveAll_careful style _ _

namespace Viewport

def found? (v : Viewport) (e : Option Element) : Option Viewport :=
  if v.mounted = e then some v else none

/-- A viewport behind one exchange, if it can answer like that. One that is held is not taken. -/
def exchange? (v : Viewport) : Exchange → Option Viewport
  | ⟨.acquire, _⟩ => v.acquire?
  | ⟨.release, _⟩ => some v.release
  | ⟨.mount e, _⟩ => some (v.mount e)
  | ⟨.mounted, e⟩ => v.found? e
  | _ => some v

def follow? (v : Viewport) : List Exchange → Option Viewport
  | [] => some v
  | x :: t => (v.exchange? x).bind (·.follow? t)

variable {v w : Viewport} {x : Exchange} {t t' : List Exchange}

theorem follow?_append (v : Viewport) (t t' : List Exchange) :
    v.follow? (t ++ t') = (v.follow? t).bind (·.follow? t') := by
  induction t generalizing v with
  | nil => rfl
  | cons x t ih => cases h : v.exchange? x <;> simp [follow?, h, ih]

theorem follow?_concat (v : Viewport) (t : List Exchange) (x : Exchange) :
    v.follow? (t ++ [x]) = (v.follow? t).bind (·.exchange? x) := by
  rw [follow?_append]
  congr 1
  funext w
  cases h : w.exchange? x <;> simp [follow?, h]

theorem follow?_append_some (h : v.follow? (t ++ t') = some w) :
    ∃ u, v.follow? t = some u ∧ u.follow? t' = some w := by
  rw [follow?_append] at h
  exact Option.bind_eq_some_iff.1 h

theorem eq_of_found? {e : Option Element} (h : v.found? e = some w) : v.mounted = e ∧ w = v := by
  simp only [found?] at h
  split at h
  · rename_i he
    cases h
    exact ⟨he, rfl⟩
  · cases h

theorem held_of_exchange? (h : v.exchange? x = some w) : w.held = x.1.heldAfter v.held := by
  obtain ⟨c, r⟩ := x
  cases c with
  | acquire =>
    simp only [exchange?, acquire?] at h
    split at h
    · cases h
    · cases h
      rfl
  | mounted =>
    rw [(eq_of_found? h).2]
    rfl
  | _ =>
    cases h
    rfl

theorem held_of_follow? (h : v.follow? t = some w) : w.held = heldBehind v.held t := by
  induction t generalizing v with
  | nil =>
    cases h
    rfl
  | cons x t ih =>
    obtain ⟨u, hu, ht⟩ := Option.bind_eq_some_iff.1 h
    rw [ih ht, held_of_exchange? hu, heldBehind_cons]

/-- A call that is allowed without the viewport leaves it alone, unless it takes it. -/
theorem exchange?_of_unheld (hallowed : x.1.isAllowed false = true) (hx : x.1 ≠ .acquire)
    (v : Viewport) : v.exchange? x = some v ∧ x.1.heldAfter false = false := by
  obtain ⟨c, r⟩ := x
  cases c with
  | acquire => exact absurd rfl hx
  | release => cases hallowed
  | mount e => cases hallowed
  | mounted => cases hallowed
  | _ => exact ⟨rfl, rfl⟩

/-- Whoever lets go of the viewport leaves nothing on it. -/
theorem eq_empty_of_left (hx : x.1.heldAfter true = false) (h : v.exchange? x = some w) :
    w = .empty := by
  obtain ⟨c, r⟩ := x
  cases c with
  | release =>
    cases h
    rfl
  | _ => cases hx

theorem unheld_of_acquired (hx : x.1 = .acquire) (h : v.exchange? x = some w) : v.held = false := by
  obtain ⟨c, r⟩ := x
  subst hx
  simp only [exchange?, acquire?] at h
  split at h
  · cases h
  · rename_i hfree
    simpa using hfree

end Viewport

theorem Services.exists_followed_runs {σ α : Type} (s : Services (StateM σ)) {p : Process α}
    {v : Viewport} {stop : Bool} (hp : p.Careful v.held stop) (st : σ) :
    ∃ t w, p.Runs t (((p.run s.answer).run v).run st).1.1 ∧ v.follow? t = some w := by
  induction p generalizing v st with
  | done a => exact ⟨[], v, .done a, rfl⟩
  | ask c next ih =>
    have hanswer : v.exchange? ⟨c, (((s.answer c).run v).run st).1.1⟩ =
        some (((s.answer c).run v).run st).1.2 := by
      have hallowed := hp.1
      cases c with
      | acquire =>
        have hfree : v.held = false := by simpa [Call.isAllowed] using hallowed
        change v.acquire? = some (v.acquire?.getD v)
        simp [Viewport.acquire?, hfree]
      | mounted => exact if_pos rfl
      | _ => rfl
    have hheld := Viewport.held_of_exchange? hanswer
    obtain ⟨t, w, ht, hw⟩ := ih _ (hheld ▸ hp.2 _) (((s.answer c).run v).run st).2
    exact ⟨_, w, .ask _ ht, Option.bind_eq_some_iff.2 ⟨_, hanswer, hw⟩⟩

end Folio
