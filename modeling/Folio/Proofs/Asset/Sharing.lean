import Mathlib.Logic.Function.Basic
import Folio.Proofs.Asset.Attempts
/-!
Any number of resolutions on one viewport, their calls interleaved in any order, each free to give up
at any point. Each of them sees the viewport as if it had it alone (`Sharing.Sound`), so none captures
what another one has mounted (`viewport_exclusive`).
-/
set_option autoImplicit false

namespace Folio

open Process Exchange

/-- What one of those who share a viewport has to do. -/
structure Job where
  nodes : List Node
  source : String
  style : PictureStyle
  options : ExportOptions

namespace Job

def document (j : Job) : Document := (Document.ofNodes j.nodes).withSource j.source

def targets (j : Job) : List AssetTarget := j.document.targets j.options

def process (j : Job) : Process ResolvedAssets := j.document.resolve j.style j.options

end Job

/-- A viewport and those who share it: what each one has asked and been answered so far, and whether it
has given up. -/
structure Sharing (ι : Type) where
  viewport : Viewport
  past : ι → List Exchange
  gone : ι → Bool

namespace Sharing

variable {ι : Type}

def start : Sharing ι := ⟨.empty, fun _ => [], fun _ => false⟩

/-- At most one holds the viewport. The holder's own past explains the viewport as it is, and the past
of anyone else explains an empty one. -/
structure Sound (s : Sharing ι) : Prop where
  alone : ∀ i j, isHolding (s.past i) = true → isHolding (s.past j) = true → i = j
  own : ∀ i, Viewport.empty.follow? (s.past i) =
    some (if isHolding (s.past i) then s.viewport else .empty)
  free : (∀ i, isHolding (s.past i) = false) → s.viewport = .empty

theorem Sound.start : (start : Sharing ι).Sound where
  alone _ _ h := nomatch h
  own _ := rfl
  free _ := rfl

section

variable {s : Sharing ι} {i j : ι}

theorem Sound.held (h : s.Sound) (hi : isHolding (s.past i) = true) : s.viewport.held = true := by
  have hown := h.own i
  rw [if_pos hi] at hown
  rw [Viewport.held_of_follow? hown]
  exact hi

theorem Sound.unheld_of_ne (h : s.Sound) (hi : isHolding (s.past i) = true) (hj : j ≠ i) :
    isHolding (s.past j) = false := by
  by_contra hne
  exact hj (h.alone j i (by simpa using hne) hi)

theorem Sound.unheld_of_free (h : s.Sound) (hfree : s.viewport.held = false) :
    isHolding (s.past i) = false := by
  by_contra hi
  rw [h.held (by simpa using hi)] at hfree
  cases hfree

end

variable [DecidableEq ι]

def exchange (s : Sharing ι) (i : ι) (x : Exchange) (v : Viewport) : Sharing ι :=
  { s with viewport := v, past := Function.update s.past i (s.past i ++ [x]) }

def abandon (s : Sharing ι) (i : ι) : Sharing ι :=
  let left := if isHolding (s.past i) then s.exchange i released s.viewport.release else s
  { left with gone := Function.update s.gone i true }

/-- One step of anyone. A call waits until the viewport can answer it; all other answers are free. -/
inductive Step (jobs : ι → Job) : Sharing ι → Sharing ι → Prop where
  | exchange {s : Sharing ι} {i : ι} {c : Call} (r : c.Reply) {v : Viewport}
      (present : s.gone i = false) (next : (jobs i).process.Asks (s.past i) c)
      (answer : s.viewport.exchange? ⟨c, r⟩ = some v) : Step jobs s (s.exchange i ⟨c, r⟩ v)
  | abandon {s : Sharing ι} {i : ι} (present : s.gone i = false) : Step jobs s (s.abandon i)

inductive Reachable (jobs : ι → Job) : Sharing ι → Prop where
  | start : Reachable jobs start
  | step {s s' : Sharing ι} (h : Reachable jobs s) (step : Step jobs s s') : Reachable jobs s'

section

variable {s : Sharing ι} {i j : ι} {x : Exchange} {v : Viewport}

theorem past_exchange_self : (s.exchange i x v).past i = s.past i ++ [x] :=
  Function.update_self ..

theorem past_exchange_of_ne (h : j ≠ i) : (s.exchange i x v).past j = s.past j :=
  Function.update_of_ne h ..

theorem isHolding_exchange_self :
    isHolding ((s.exchange i x v).past i) = x.1.heldAfter (isHolding (s.past i)) := by
  rw [past_exchange_self, isHolding_concat]

theorem Sound.exchange_of_owner (h : s.Sound) (hothers : ∀ j, j ≠ i → isHolding (s.past j) = false)
    (hown : Viewport.empty.follow? (s.past i) = some s.viewport)
    (hanswer : s.viewport.exchange? x = some v)
    (hleft : x.1.heldAfter (isHolding (s.past i)) = false → v = .empty) :
    (s.exchange i x v).Sound := by
  have hrest : ∀ j, j ≠ i → isHolding ((s.exchange i x v).past j) = false := by
    intro j hj
    rw [past_exchange_of_ne hj]
    exact hothers j hj
  have hwho : ∀ j, isHolding ((s.exchange i x v).past j) = true → j = i := by
    intro j hj
    by_contra hne
    rw [hrest j hne] at hj
    cases hj
  refine ⟨fun j k hj hk => (hwho j hj).trans (hwho k hk).symm, fun j => ?_, fun hnone => ?_⟩
  · by_cases hj : j = i
    · rw [hj, isHolding_exchange_self, past_exchange_self, Viewport.follow?_concat, hown]
      refine hanswer.trans (congrArg some ?_)
      split
      · rfl
      · rename_i hheld
        exact hleft (by simpa using hheld)
    · rw [hrest j hj, past_exchange_of_ne hj, h.own j, hothers j hj]
      rfl
  · exact hleft (isHolding_exchange_self.symm.trans (hnone i))

theorem Sound.exchange_of_other (h : s.Sound) (hi : isHolding (s.past i) = false)
    (hallowed : x.1.isAllowed false = true) (hx : x.1 ≠ .acquire) :
    (s.exchange i x s.viewport).Sound := by
  obtain ⟨hempty, hafter⟩ := Viewport.exchange?_of_unheld hallowed hx .empty
  have hpast : ∀ j, isHolding ((s.exchange i x s.viewport).past j) = isHolding (s.past j) := by
    intro j
    by_cases hj : j = i
    · rw [hj, isHolding_exchange_self, hi, hafter]
    · rw [past_exchange_of_ne hj]
  refine ⟨fun j k => ?_, fun j => ?_, fun hnone => h.free fun j => hpast j ▸ hnone j⟩
  · rw [hpast j, hpast k]
    exact h.alone j k
  · rw [hpast j]
    by_cases hj : j = i
    · have hown := h.own i
      rw [hi] at hown
      rw [hj, past_exchange_self, Viewport.follow?_concat, hown, hi]
      exact hempty
    · rw [past_exchange_of_ne hj]
      exact h.own j

theorem Sound.exchange (h : s.Sound) (hallowed : x.1.isAllowed (isHolding (s.past i)) = true)
    (hanswer : s.viewport.exchange? x = some v) : (s.exchange i x v).Sound := by
  cases hi : isHolding (s.past i) with
  | true =>
    have hown : Viewport.empty.follow? (s.past i) = some s.viewport := by rw [h.own i, if_pos hi]
    refine h.exchange_of_owner (fun j hj => h.unheld_of_ne hi hj) hown hanswer fun hleft => ?_
    rw [hi] at hleft
    exact Viewport.eq_empty_of_left hleft hanswer
  | false =>
    rw [hi] at hallowed
    by_cases hx : x.1 = .acquire
    · -- It could be taken, so nobody held it, and nothing was left on it.
      have hnone : ∀ j, isHolding (s.past j) = false := fun j =>
        h.unheld_of_free (Viewport.unheld_of_acquired hx hanswer)
      have hown : Viewport.empty.follow? (s.past i) = some s.viewport := by
        rw [h.own i, hi, h.free hnone]
        rfl
      refine h.exchange_of_owner (fun j _ => hnone j) hown hanswer fun hleft => ?_
      rw [hx] at hleft
      cases hleft
    · rw [(Viewport.exchange?_of_unheld hallowed hx s.viewport).1] at hanswer
      cases hanswer
      exact h.exchange_of_other hi hallowed hx

theorem Sound.abandon (h : s.Sound) : (s.abandon i).Sound := by
  have hleft : (if isHolding (s.past i) then s.exchange i released s.viewport.release else s).Sound := by
    split
    · rename_i hi
      exact h.exchange hi rfl
    · exact h
  exact ⟨hleft.alone, hleft.own, hleft.free⟩

theorem Sound.step {jobs : ι → Job} {s' : Sharing ι} (h : s.Sound) (hstep : Step jobs s s') :
    s'.Sound := by
  cases hstep with
  | exchange r present next answer =>
    exact h.exchange (next.isAllowed (Document.resolve_careful _ _ _)) answer
  | abandon present => exact h.abandon

theorem Reachable.exchange {jobs : ι → Job} (h : Reachable jobs s) (present : s.gone i = false)
    (next : (jobs i).process.Asks (s.past i) x.1) (answer : s.viewport.exchange? x = some v) :
    Reachable jobs (s.exchange i x v) :=
  h.step (.exchange x.2 present next answer)

theorem Reachable.sound {jobs : ι → Job} (h : Reachable jobs s) : s.Sound := by
  induction h with
  | start => exact .start
  | step h step ih => exact ih.step step

end

end Sharing

theorem captureMounted_asks {options : CaptureOptions} {e : Element} {v : Viewport}
    {t : List Exchange} {c : Call} (h : (captureMounted options).Asks t c)
    (hv : Viewport.follow? ⟨true, some e⟩ t = some v) :
    (t = [] ∧ c = .mounted) ∨ (t = [found (some e)] ∧ c = .capture e options) := by
  rcases asks_call_bind.1 h with ⟨rfl, rfl⟩ | ⟨mounted, t', hnext, rfl⟩
  · exact .inl ⟨rfl, rfl⟩
  · obtain ⟨u, hu, -⟩ := Option.bind_eq_some_iff.1 hv
    obtain ⟨hmounted, -⟩ := Viewport.eq_of_found? hu
    cases hmounted
    obtain ⟨rfl, rfl⟩ := asks_call.1 hnext
    exact .inr ⟨rfl, rfl⟩

theorem AssetTarget.resolve_asks_capture {style : PictureStyle} {target : AssetTarget}
    {v : Viewport} {t : List Exchange} {e : Element} {options : CaptureOptions}
    (h : (target.resolve style).Asks t (.capture e options))
    (hv : Viewport.empty.follow? t = some v) :
    t = target.mounting style e ∧ options = style.capture := by
  rcases asks_call_bind.1 h with ⟨-, hc⟩ | ⟨⟨⟩, t₁, hacquired, rfl⟩
  · cases hc
  rcases asks_call_bind.1 hacquired with ⟨-, hc⟩ | ⟨reply, t₂, hrendered, rfl⟩
  · cases hc
  cases reply with
  | error e' =>
    rcases asks_call_bind.1 hrendered with ⟨-, hc⟩ | ⟨-, t₃, hreleased, rfl⟩
    · cases hc
    · exact absurd hreleased (not_asks_pure _ _ _)
  | ok element =>
    rcases asks_call_bind.1 hrendered with ⟨-, hc⟩ | ⟨⟨⟩, t₃, hmounted, rfl⟩
    · cases hc
    rcases asks_bind.1 hmounted with hcapture | ⟨t₄, captured, t₅, -, hafter, rfl⟩
    · rcases captureMounted_asks hcapture hv with ⟨-, hc⟩ | ⟨rfl, hc⟩
      · cases hc
      · cases hc
        exact ⟨rfl, rfl⟩
    · rcases asks_call_bind.1 hafter with ⟨-, hc⟩ | ⟨-, t₆, hreleased, rfl⟩
      · cases hc
      cases captured with
      | error e' => exact absurd hreleased (not_asks_pure _ _ _)
      | ok image =>
        rcases asks_call_bind.1 hreleased with ⟨-, hc⟩ | ⟨reply, t₇, hend, -⟩
        · cases hc
        · cases reply <;> exact absurd hend (not_asks_pure _ _ _)

/-- Before a capture stand whole attempts for the targets before, and the mounting of this one. -/
theorem resolveAll_asks_capture {style : PictureStyle} {resolved : ResolvedAssets}
    {targets : List AssetTarget} {v : Viewport} {t : List Exchange} {e : Element}
    {options : CaptureOptions} (h : (resolveAll style resolved targets).Asks t (.capture e options))
    (hv : Viewport.empty.follow? t = some v) :
    ∃ (attempts : List Attempt) (target : AssetTarget) (rest : List AssetTarget),
      (∀ a ∈ attempts, a.Made style) ∧ targets = attempts.map (·.target) ++ target :: rest ∧
      t = attempts.flatMap (·.calls) ++ target.mounting style e ∧ options = style.capture := by
  induction targets generalizing resolved t with
  | nil => exact absurd h (not_asks_pure _ _ _)
  | cons target targets ih =>
    rcases asks_bind.1 h with hfirst | ⟨t₁, r, t₂, hfirst, hrest, rfl⟩
    · obtain ⟨rfl, rfl⟩ := AssetTarget.resolve_asks_capture hfirst hv
      exact ⟨[], target, targets, by simp, rfl, rfl, rfl⟩
    · obtain ⟨u, hu, ht₂⟩ := Viewport.follow?_append_some hv
      obtain ⟨hmade, rfl⟩ := AssetTarget.resolve_runs hfirst hu
      obtain ⟨attempts, current, rest, hall, rfl, rfl, hoptions⟩ := ih hrest ht₂
      exact ⟨⟨target, t₁, r⟩ :: attempts, current, rest, List.forall_mem_cons.2 ⟨hmade, hall⟩, rfl,
        (List.append_assoc ..).symm, hoptions⟩

structure Exclusive {ι : Type} (jobs : ι → Job) (s : Sharing ι) : Prop where
  alone : ∀ i j, isHolding (s.past i) = true → isHolding (s.past j) = true → i = j
  empty : (∀ i, isHolding (s.past i) = false) → s.viewport.slot = none
  /-- The element to be captured is the one that was rendered last in the same attempt, which is for
  the target that comes after all those with an attempt already. -/
  captured : ∀ i e options, (jobs i).process.Asks (s.past i) (.capture e options) →
    ∃ (attempts : List Attempt) (target : AssetTarget) (rest : List AssetTarget),
      (∀ a ∈ attempts, a.Made (jobs i).style) ∧
      (jobs i).targets = attempts.map (·.target) ++ target :: rest ∧
      s.past i = attempts.flatMap (·.calls) ++ target.mounting (jobs i).style e
  published : ∀ i image, (jobs i).process.Asks (s.past i) (.upload image) →
    isHolding (s.past i) = false

theorem viewport_exclusive {ι : Type} [DecidableEq ι] {jobs : ι → Job} {s : Sharing ι}
    (h : Sharing.Reachable jobs s) : Exclusive jobs s := by
  have hsound := h.sound
  refine ⟨hsound.alone, fun hnone => ?_, fun i e options hasks => ?_, fun i image hasks => ?_⟩
  · rw [hsound.free hnone]
    rfl
  · obtain ⟨attempts, target, rest, hmade, htargets, hpast, -⟩ :=
      resolveAll_asks_capture hasks (hsound.own i)
    exact ⟨attempts, target, rest, hmade, htargets, hpast⟩
  · have hallowed := hasks.isAllowed (Document.resolve_careful _ _ _)
    simpa [Call.isAllowed, isHolding] using hallowed

def neighbours (second : Bool) : Job where
  nodes := [.leaf (.code (some "mermaid") (if second then "B" else "A"))]
  source := ""
  style := ⟨"default", ⟨"#ffffff", .ofNat 2, true⟩⟩
  options := .default

def neighbourTarget (second : Bool) : AssetTarget :=
  ⟨1, .diagram "mermaid", if second then "B" else "A"⟩

theorem neighbours_asks (second : Bool) (e : Element) :
    (neighbours second).process.Asks [] .acquire ∧
      (neighbours second).process.Asks [acquired]
        (.render (neighbourTarget second).source (neighbourTarget second).kind "default") ∧
      (neighbours second).process.Asks
        [acquired, rendered (neighbourTarget second).source (neighbourTarget second).kind "default"
          (.ok e)] (.mount e) ∧
      (neighbours second).process.Asks
        [acquired, rendered (neighbourTarget second).source (neighbourTarget second).kind "default"
          (.ok e), mountedOn e] .mounted ∧
      (neighbours second).process.Asks
        ((neighbourTarget second).mounting (neighbours second).style e)
        (.capture e (neighbours second).style.capture) := by
  have htargets : ∀ b, (neighbours b).document.targets (neighbours b).options =
      [neighbourTarget b] := by decide +kernel
  have hprocess : (neighbours second).process =
      resolveAll (neighbours second).style ⟨.empty, []⟩ [neighbourTarget second] := by
    rw [Job.process, Document.resolve, htargets]
  rw [hprocess]
  exact ⟨.now _ _, .later _ (.now _ _), .later _ (.later _ (.now _ _)),
    .later _ (.later _ (.later _ (.now _ _))), .later _ (.later _ (.later _ (.later _ (.now _ _))))⟩

/-- The first neighbour gives up with its diagram mounted; the second one captures its own. -/
theorem exclusive_neighbours :
    ∃ s, Sharing.Reachable neighbours s ∧
      (neighbours true).process.Asks (s.past true)
        (.capture ⟨.png, [2]⟩ (neighbours true).style.capture) ∧ Exclusive neighbours s := by
  obtain ⟨hacquire, hrender, hmount, -, -⟩ := neighbours_asks false ⟨.png, [1]⟩
  obtain ⟨hacquire', hrender', hmount', hmounted', hcapture'⟩ := neighbours_asks true ⟨.png, [2]⟩
  have h₁ := Sharing.Reachable.start.exchange (x := acquired) rfl hacquire rfl
  have h₂ := h₁.exchange (x := rendered _ _ _ (.ok ⟨.png, [1]⟩)) rfl hrender rfl
  have h₃ := (h₂.exchange (x := mountedOn ⟨.png, [1]⟩) rfl hmount rfl).step (.abandon (i := false) rfl)
  have h₄ := h₃.exchange (x := acquired) rfl hacquire' rfl
  have h₅ := h₄.exchange (x := rendered _ _ _ (.ok ⟨.png, [2]⟩)) rfl hrender' rfl
  have h₆ := h₅.exchange (x := mountedOn ⟨.png, [2]⟩) rfl hmount' rfl
  have h₇ := h₆.exchange (x := found (some ⟨.png, [2]⟩)) rfl hmounted' rfl
  exact ⟨_, h₇, hcapture', viewport_exclusive h₇⟩

end Folio
