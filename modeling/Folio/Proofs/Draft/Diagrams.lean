import Mathlib.Data.List.Forall2
import Folio.Draft.Emit
import Folio.Proofs.Document.Shaped
/-!
What the pictures of diagrams do to a draft. The drafts of one document under all asset maps are one
form with a gap for each diagram (`emit_uniform`): a map that has the diagram fills its gap with a
picture and a line feed, one that has not leaves it empty, and all that stands behind moves by these
two positions and does not change otherwise (`compile_abreast`).
-/
set_option autoImplicit false

namespace Folio

open Edit
open Node (preorderAll)

def Node.isDiagram (options : ExportOptions) (n : Node) : Bool :=
  match n.kind with
  | .code (some lang) _ => options.isDiagramLanguage lang
  | _ => false

def Kind.isEnclosing : Kind → Bool
  | .heading _ | .strong | .emphasis | .link _ | .table _ => true
  | _ => false

/-- No diagram is below a styled node or a table. -/
def DiagramsApart (options : ExportOptions) (ns : List Node) : Prop :=
  ∀ t ∈ ns, t.kind.isEnclosing = true → ∀ n ∈ preorderAll t.children, n.isDiagram options = false

instance (options : ExportOptions) (ns : List Node) : Decidable (DiagramsApart options ns) :=
  inferInstanceAs (Decidable (∀ t ∈ ns, t.kind.isEnclosing = true →
    ∀ n ∈ preorderAll t.children, n.isDiagram options = false))

theorem DiagramsApart.append {options : ExportOptions} {ns ms : List Node} :
    DiagramsApart options (ns ++ ms) ↔ DiagramsApart options ns ∧ DiagramsApart options ms :=
  List.forall_mem_append

theorem DiagramsApart.cons {options : ExportOptions} {n : Node} {ns : List Node} :
    DiagramsApart options (n :: ns) ↔
      (n.kind.isEnclosing = true → ∀ m ∈ preorderAll n.children, m.isDiagram options = false) ∧
        DiagramsApart options ns := List.forall_mem_cons

/-- The place of a picture: one that the text names, or one that a diagram may have. -/
inductive Slot where
  | named (uri : String)
  | diagram (id : Nat)
  deriving Repr, DecidableEq

def Node.slot? (options : ExportOptions) (n : Node) : Option Slot :=
  if n.isDiagram options then some (.diagram n.id)
  else match n.kind with
    | .image url _ => if Web.isAbsoluteUrl url then some (.named url) else none
    | _ => none

mutual

/-- The places of pictures in pre-order. Nothing below a table is drafted with its document. -/
def Node.slots (options : ExportOptions) : Node → List Slot
  | .mk id kind children =>
    ((Node.mk id kind children).slot? options).toList ++
      if kind.isTable then [] else slotsAll options children

def slotsAll (options : ExportOptions) : List Node → List Slot
  | [] => []
  | n :: ns => n.slots options ++ slotsAll options ns

end

namespace Edit

def Range.moved (r : Range) (n : Nat) : Range := ⟨r.start + n, r.stop + n⟩

/-- The same request `n` positions further on. -/
def Request.moved (n : Nat) : Request → Request
  | .insertText i text => .insertText (i + n) text
  | .styleParagraph range level fields => .styleParagraph (range.moved n) level fields
  | .styleText range style fields => .styleText (range.moved n) style fields
  | .insertImage i uri size => .insertImage (i + n) uri size
  | .insertTable i rows columns => .insertTable (i + n) rows columns
  | .delete range => .delete (range.moved n)

def Request.text? : Request → Option String
  | .insertText _ text => some text
  | _ => none

/-- What is left of a request if the address of a picture does not count. -/
def Request.withoutUri : Request → Request
  | .insertImage i _ size => .insertImage i "" size
  | r => r

end Edit

inductive Drawn where
  | diagram (uri : String)
  | named (uri : String)
  deriving Repr, DecidableEq

def Slot.drawn? (assets : AssetMap) : Slot → Option Drawn
  | .named uri => some (.named uri)
  | .diagram id => (assets.get? id).map .diagram

def Document.drawn (doc : Document) (assets : AssetMap) (options : ExportOptions) : List Drawn :=
  (doc.root.slots options).filterMap (Slot.drawn? assets)

/-- Taking the pictures of diagrams out of the requests of a draft, each with the line feed behind it.
Every request that stays has the number of pictures that were taken out before it. -/
inductive TakenOut : Nat → List Drawn → List Request → List (Nat × Request) → Prop where
  | nil (n : Nat) : TakenOut n [] [] []
  | diagram {n i : Nat} {uri : String} {size : Option Size} {ds : List Drawn} {rs : List Request}
      {ks : List (Nat × Request)} (h : TakenOut (n + 1) ds rs ks) :
      TakenOut n (.diagram uri :: ds)
        (.insertImage i uri size :: .insertText (i + 1) "\n" :: rs) ks
  | named {n i : Nat} {uri : String} {size : Option Size} {ds : List Drawn} {rs : List Request}
      {ks : List (Nat × Request)} (h : TakenOut n ds rs ks) :
      TakenOut n (.named uri :: ds) (.insertImage i uri size :: rs)
        ((n, .insertImage i uri size) :: ks)
  | other {n : Nat} {r : Request} {ds : List Drawn} {rs : List Request}
      {ks : List (Nat × Request)} (hr : ∀ i uri size, r ≠ .insertImage i uri size)
      (h : TakenOut n ds rs ks) : TakenOut n ds (r :: rs) ((n, r) :: ks)

theorem TakenOut.unique {n : Nat} {ds : List Drawn} {rs : List Request} {ks ks' : List (Nat × Request)}
    (h : TakenOut n ds rs ks) (h' : TakenOut n ds rs ks') : ks = ks' := by
  induction h generalizing ks' with
  | nil n =>
    cases h'
    rfl
  | diagram h ih =>
    cases h' with
    | diagram h' => exact ih h'
    | other hr h' => exact absurd rfl (hr _ _ _)
  | named h ih =>
    cases h' with
    | named h' => rw [ih h']
    | other hr h' => exact absurd rfl (hr _ _ _)
  | other hr h ih =>
    cases h' with
    | diagram h' => exact absurd rfl (hr _ _ _)
    | named h' => exact absurd rfl (hr _ _ _)
    | other hr' h' => rw [ih h']

/-- Two requests that differ in their positions only, by twice the difference of the numbers of
pictures before them. -/
def Abreast (a b : Nat × Request) : Prop := a.2.moved (2 * b.1) = b.2.moved (2 * a.1)

inductive Part where
  | request (r : Request)
  | gap (id index : Nat)

namespace Part

def slot? : Part → Option Slot
  | .request (.insertImage _ uri _) => some (.named uri)
  | .gap id _ => some (.diagram id)
  | _ => none

def text? : Part → Option String
  | .request r => r.text?
  | .gap .. => none

end Part

def filled (assets : AssetMap) : List Part → Nat
  | [] => 0
  | .request _ :: ps => filled assets ps
  | .gap id _ :: ps => (if (assets.get? id).isSome then 1 else 0) + filled assets ps

/-- The requests of a form, `n` gaps being filled before it. -/
def layOut (assets : AssetMap) (size : Option Size) (n : Nat) : List Part → List Request
  | [] => []
  | .request r :: ps => r.moved (2 * n) :: layOut assets size n ps
  | .gap id i :: ps =>
    match assets.get? id with
    | some uri =>
      .insertImage (i + 2 * n) uri size :: .insertText (i + 2 * n + 1) "\n" ::
        layOut assets size (n + 1) ps
    | none => layOut assets size n ps

/-- The requests of a form that are no picture of a diagram, with the number of gaps filled before
each. -/
def remaining (assets : AssetMap) (n : Nat) : List Part → List (Nat × Request)
  | [] => []
  | .request r :: ps => (n, r.moved (2 * n)) :: remaining assets n ps
  | .gap id _ :: ps => remaining assets (n + if (assets.get? id).isSome then 1 else 0) ps

section

variable {assets assets' : AssetMap} {size : Option Size} {ps qs : List Part}

theorem Edit.Request.moved_moved (r : Request) (m n : Nat) :
    (r.moved m).moved n = r.moved (m + n) := by
  cases r <;> simp [Request.moved, Range.moved, Nat.add_assoc]

@[simp] theorem Edit.Request.text?_moved (r : Request) (n : Nat) : (r.moved n).text? = r.text? := by
  cases r <;> rfl

theorem filled_append : filled assets (ps ++ qs) = filled assets ps + filled assets qs := by
  induction ps with
  | nil => simp [filled]
  | cons p ps ih => cases p <;> simp [filled, ih, Nat.add_assoc]

theorem layOut_append (n : Nat) : layOut assets size n (ps ++ qs) =
    layOut assets size n ps ++ layOut assets size (n + filled assets ps) qs := by
  induction ps generalizing n with
  | nil => rfl
  | cons p ps ih =>
    cases p with
    | request r => simp [layOut, filled, ih]
    | gap id i => cases h : assets.get? id <;> simp [layOut, filled, ih, h, Nat.add_assoc]

/-- Where no diagram has a place no gap is filled. -/
theorem filled_eq_zero (h : ∀ id, .diagram id ∉ ps.filterMap Part.slot?) :
    filled assets ps = 0 := by
  induction ps with
  | nil => rfl
  | cons p ps ih =>
    have htail : ∀ id, Slot.diagram id ∉ ps.filterMap Part.slot? := by
      intro id hid
      obtain ⟨q, hq, hslot⟩ := List.mem_filterMap.1 hid
      exact h id (List.mem_filterMap.2 ⟨q, List.mem_cons_of_mem p hq, hslot⟩)
    cases p with
    | request r => exact ih htail
    | gap id i =>
      have hmem : Slot.diagram id ∈ (Part.gap id i :: ps).filterMap Part.slot? :=
        List.mem_filterMap.2 ⟨Part.gap id i, List.mem_cons_self, rfl⟩
      exact absurd hmem (h id)

theorem takenOut_layOut (n : Nat) :
    TakenOut n ((ps.filterMap Part.slot?).filterMap (Slot.drawn? assets))
      (layOut assets size n ps) (remaining assets n ps) := by
  induction ps generalizing n with
  | nil => exact .nil n
  | cons p ps ih =>
    cases p with
    | request r =>
      cases r with
      | insertImage i uri size => exact .named (ih n)
      | _ => exact .other (by simp [Request.moved]) (ih n)
    | gap id i =>
      have hslots : (Part.gap id i :: ps).filterMap Part.slot? =
          .diagram id :: ps.filterMap Part.slot? := rfl
      rw [hslots, List.filterMap_cons, Slot.drawn?, layOut, remaining]
      cases assets.get? id with
      | some uri => exact .diagram (ih (n + 1))
      | none => exact ih n

theorem remaining_abreast (m n : Nat) :
    List.Forall₂ Abreast (remaining assets m ps) (remaining assets' n ps) := by
  induction ps generalizing m n with
  | nil => exact .nil
  | cons p ps ih =>
    cases p with
    | request r =>
      refine .cons ?_ (ih m n)
      rw [Abreast, Request.moved_moved, Request.moved_moved, Nat.add_comm]
    | gap id i => exact ih _ _

theorem filter_texts_layOut {p : String → Bool} (hp : p "\n" = false) (n : Nat) :
    ((layOut assets size n ps).filterMap Request.text?).filter p =
      (ps.filterMap Part.text?).filter p := by
  induction ps generalizing n with
  | nil => rfl
  | cons q ps ih =>
    cases q with
    | request r =>
      have hr : ((Part.request r).text?) = r.text? := rfl
      cases h : r.text? <;>
        simp [layOut, hr, h, List.filter_cons, ih]
    | gap id i =>
      have hgap : (Part.gap id i :: ps).filterMap Part.text? = ps.filterMap Part.text? := rfl
      rw [hgap, layOut]
      cases assets.get? id with
      | none => exact ih n
      | some uri =>
        have hpair (rs : List Request) : (Request.insertImage (i + 2 * n) uri size ::
            .insertText (i + 2 * n + 1) "\n" :: rs).filterMap Request.text? =
              "\n" :: rs.filterMap Request.text? := rfl
        dsimp only
        rw [hpair, List.filter_cons_of_neg (by simp [hp]), ih]

section

variable (h : ∀ id, (assets.get? id).isSome = (assets'.get? id).isSome)

include h

theorem remaining_congr (n : Nat) : remaining assets n ps = remaining assets' n ps := by
  induction ps generalizing n with
  | nil => rfl
  | cons p ps ih =>
    cases p with
    | request r => rw [remaining, remaining, ih]
    | gap id i => rw [remaining, remaining, h, ih]

theorem layOut_congr (n : Nat) : (layOut assets size n ps).map Request.withoutUri =
    (layOut assets' size n ps).map Request.withoutUri := by
  induction ps generalizing n with
  | nil => rfl
  | cons p ps ih =>
    cases p with
    | request r => rw [layOut, layOut, List.map_cons, List.map_cons, ih]
    | gap id i =>
      have hid := h id
      cases h1 : assets.get? id <;> cases h2 : assets'.get? id <;> simp [h1, h2] at hid <;>
        simp [layOut, h1, h2, Request.withoutUri, ih]

end

end

/-- The draft `d` stands where `base` does, but for `n` pictures and their line feeds. -/
structure Ahead (n : Nat) (d base : Draft) : Prop where
  index : d.index = base.index + 2 * n
  tables : d.tables = base.tables

/-- A step of drafting that adds the same form under each map, with these places of pictures. -/
def Uniform (size : Option Size) (slots : List Slot) (step : AssetMap → Draft → Draft) : Prop :=
  ∀ base : Draft, ∃ ps : List Part, ps.filterMap Part.slot? = slots ∧
    ∀ assets n d, Ahead n d base →
      (step assets d).requests = d.requests ++ layOut assets size n ps ∧
        Ahead (n + filled assets ps) (step assets d) (step .empty base)

section

variable {size : Option Size} {slots slots' : List Slot} {f g : AssetMap → Draft → Draft}

theorem Uniform.refl (size : Option Size) : Uniform size [] fun _ d => d :=
  fun _ => ⟨[], rfl, fun _ _ d h => ⟨(List.append_nil d.requests).symm, h⟩⟩

theorem Uniform.trans (hf : Uniform size slots f) (hg : Uniform size slots' g) :
    Uniform size (slots ++ slots') fun assets d => g assets (f assets d) := by
  intro base
  obtain ⟨ps, hps, hfirst⟩ := hf base
  obtain ⟨qs, hqs, hsecond⟩ := hg (f .empty base)
  refine ⟨ps ++ qs, by rw [List.filterMap_append, hps, hqs], fun assets n d h => ?_⟩
  obtain ⟨hreq, hahead⟩ := hfirst assets n d h
  obtain ⟨hreq', hahead'⟩ := hsecond assets _ _ hahead
  refine ⟨?_, by rw [filled_append, ← Nat.add_assoc]; exact hahead'⟩
  rw [hreq', hreq, layOut_append, List.append_assoc]

theorem Uniform.andThen (hf : Uniform size slots f) (hg : Uniform size [] g) :
    Uniform size slots fun assets d => g assets (f assets d) := by
  have h := hf.trans hg
  rwa [List.append_nil] at h

theorem uniform_push {r : Draft → Request} {slot : Option Slot} (c : Draft → Nat)
    (hslot : ∀ d, (Part.request (r d)).slot? = slot)
    (hr : ∀ {n : Nat} {d base : Draft}, Ahead n d base →
      r d = (r base).moved (2 * n) ∧ c d = c base) :
    Uniform size slot.toList fun _ d =>
      { d.push (r d) with cursor := d.cursor.advance (c d) } := by
  intro base
  refine ⟨[.request (r base)], ?_, fun assets n d h => ?_⟩
  · rw [List.filterMap_cons, hslot]
    cases slot <;> rfl
  · obtain ⟨hreq, hc⟩ := hr h
    refine ⟨?_, ?_, h.tables⟩
    · rw [layOut, layOut, ← hreq]
      simp [Draft.requests, Draft.push]
    · have hindex := h.index
      simp only [Draft.index, Cursor.advance, filled] at hindex ⊢
      omega

theorem uniform_insert (text : List TablePlan → String) :
    Uniform size [] fun _ d => d.insert (text d.tables) := by
  have hpush := @uniform_push size (fun d => .insertText d.index (text d.tables)) none
    (fun d => Text.units (text d.tables)) (fun _ => rfl)
    (fun {n d base} h => by simp [Request.moved, h.index, h.tables])
  intro base
  obtain ⟨ps, hps, hstep⟩ := hpush base
  by_cases hempty : (text base.tables).isEmpty
  · refine ⟨[], rfl, fun assets n d h => ?_⟩
    simp only [Draft.insert, h.tables, hempty, if_true]
    exact ⟨(List.append_nil d.requests).symm, h⟩
  · refine ⟨ps, hps, fun assets n d h => ?_⟩
    have hd := hstep assets n d h
    simp only [Draft.insert, h.tables, hempty, Bool.false_eq_true, if_false] at hd ⊢
    exact hd

theorem uniform_terminate : Uniform size [] fun _ d => d.terminate := uniform_insert fun _ => "\n"

theorem uniform_insertImage (uri : String) :
    Uniform size [.named uri] fun _ d => d.insertImage uri size :=
  @uniform_push size (fun d => .insertImage d.index uri size) (some (.named uri)) (fun _ => 1)
    (fun _ => rfl) (fun {n d base} h => by simp [Request.moved, h.index])

theorem uniform_planTable (node : Node) : Uniform size [] fun _ d => d.planTable node :=
  fun _ => ⟨[], rfl, fun _ _ d h => ⟨(List.append_nil d.requests).symm, h.index, by
    simp only [Draft.planTable, h.tables]⟩⟩

def Draft.pushSome (d : Draft) : Option Request → Draft
  | some r => d.push r
  | none => d

def styleOver (style : TextStyle) (range : Range) : Option Request :=
  if range.isEmpty then none else some (.text range style)

theorem styleOver_moved (style : TextStyle) (range : Range) (n : Nat) :
    styleOver style (range.moved n) = (styleOver style range).map (Request.moved n) := by
  have hempty : (range.moved n).isEmpty = range.isEmpty := by
    simp [Range.isEmpty, Range.moved]
  rw [styleOver, styleOver, hempty]
  cases range.isEmpty <;> rfl

theorem slot?_styleOver {style : TextStyle} {range : Range} {r : Request}
    (h : styleOver style range = some r) : (Part.request r).slot? = none := by
  rw [styleOver] at h
  split at h
  · cases h
  · cases h
    rfl

theorem Uniform.pushSome (h : Uniform size slots f) (hslots : ∀ id, .diagram id ∉ slots)
    {stop : AssetMap → Draft → Nat}
    (hstop : ∀ {assets n d base}, Ahead n d base → stop assets d = stop .empty base + 2 * n)
    {q : Range → Option Request}
    (hq : ∀ range n, q (range.moved n) = (q range).map (Request.moved n))
    (hslot : ∀ {range r}, q range = some r → (Part.request r).slot? = none) :
    Uniform size slots fun assets d => (f assets d).pushSome (q ⟨d.index, stop assets d⟩) := by
  intro base
  obtain ⟨ps, hps, hstep⟩ := h base
  have hfilled : ∀ assets, filled assets ps = 0 := fun assets =>
    filled_eq_zero (by rw [hps]; exact hslots)
  have hmoved : ∀ {assets n d}, Ahead n d base → q ⟨d.index, stop assets d⟩ =
      (q ⟨base.index, stop .empty base⟩).map (Request.moved (2 * n)) := by
    intro assets n d hd
    rw [← hq, hd.index, hstop hd]
    rfl
  cases hr : q ⟨base.index, stop .empty base⟩ with
  | none =>
    refine ⟨ps, hps, fun assets n d hd => ?_⟩
    dsimp only
    rw [hmoved hd, hr]
    exact hstep assets n d hd
  | some r =>
    refine ⟨ps ++ [.request r], ?_, fun assets n d hd => ?_⟩
    · rw [List.filterMap_append, hps, List.filterMap_cons, hslot hr, List.filterMap_nil,
        List.append_nil]
    · obtain ⟨hreq, hahead⟩ := hstep assets n d hd
      dsimp only
      rw [hmoved hd, hr]
      refine ⟨?_, ?_⟩
      · rw [layOut_append, hfilled, layOut, layOut, ← List.append_assoc, ← hreq]
        simp [Draft.pushSome, Draft.requests, Draft.push]
      · rw [filled_append]
        exact ⟨hahead.index, hahead.tables⟩

theorem Uniform.index (h : Uniform size slots f) (hslots : ∀ id, .diagram id ∉ slots)
    {assets : AssetMap} {n : Nat} {d base : Draft} (hd : Ahead n d base) :
    (f assets d).index = (f .empty base).index + 2 * n := by
  obtain ⟨ps, hps, hstep⟩ := h base
  have hfilled := @filled_eq_zero assets ps (by rw [hps]; exact hslots)
  have hindex := (hstep assets n d hd).2.index
  rwa [hfilled] at hindex

theorem Uniform.styleSince (h : Uniform size slots f) (hslots : ∀ id, .diagram id ∉ slots)
    (style : TextStyle) :
    Uniform size slots fun assets d => (f assets d).styleSince d.index style := by
  have hstyle := @Uniform.pushSome size slots f h hslots (fun assets d => (f assets d).index)
    (h.index hslots) _ (styleOver_moved style) slot?_styleOver
  refine (congrArg (Uniform size slots) ?_).mp hstyle
  funext assets d
  rw [styleOver, Draft.styleSince]
  split <;> rfl

theorem Uniform.headingSince (h : Uniform size slots f) (hslots : ∀ id, .diagram id ∉ slots)
    (level : HeadingLevel) :
    Uniform size slots fun assets d => (f assets d).headingSince d.index level :=
  @Uniform.pushSome size slots f h hslots (fun assets d => (f assets d).index) (h.index hslots)
    (fun range => some (.heading range level)) (fun _ _ => rfl) (fun h => by cases h; rfl)

end

section

variable {fingerprint : String} {options : ExportOptions}

theorem uniform_insertAsset (id : Nat) :
    Uniform (Setting.imageSize ⟨fingerprint, .empty, options⟩) [.diagram id] fun assets d =>
      d.insertAsset ⟨fingerprint, assets, options⟩ id := by
  intro base
  refine ⟨[.gap id base.index], rfl, fun assets n d h => ?_⟩
  have hbase : base.insertAsset ⟨fingerprint, .empty, options⟩ id = base := rfl
  dsimp only
  rw [hbase, layOut, filled]
  cases hid : assets.get? id with
  | none =>
    have hd : d.insertAsset ⟨fingerprint, assets, options⟩ id = d := by simp [Draft.insertAsset, hid]
    rw [hd]
    exact ⟨(List.append_nil d.requests).symm, h⟩
  | some uri =>
    have hd : d.insertAsset ⟨fingerprint, assets, options⟩ id =
        (d.insertImage uri (Setting.imageSize ⟨fingerprint, assets, options⟩)).terminate := by
      simp [Draft.insertAsset, hid]
    have hfeed : Text.units "\n" = 1 := by decide
    rw [hd]
    have hindex : d.cursor.index = base.cursor.index + 2 * n := h.index
    refine ⟨?_, ?_, h.tables⟩
    · simp [Draft.terminate, Draft.insert, Draft.insertImage, Draft.requests, Draft.push,
        Draft.index, Cursor.advance, layOut, Setting.imageSize, hindex]
    · simp [Draft.terminate, Draft.insert, Draft.insertImage, Draft.push, Draft.index,
        Cursor.advance, Cursor.advancePast, hfeed, filled]
      omega

theorem uniform_insertMarker (node : Node) :
    Uniform (Setting.imageSize ⟨fingerprint, .empty, options⟩) [] fun assets d =>
      d.insertMarker ⟨fingerprint, assets, options⟩ node := by
  have hmarker := @uniform_insert (Setting.imageSize ⟨fingerprint, .empty, options⟩)
    fun tables => placeholder fingerprint tables.length
  have hplanned := (hmarker.andThen uniform_terminate).andThen (uniform_planTable node)
  exact hplanned

/-- The tint of a code block ends before the line feed behind it. -/
theorem uniform_insertCode (id : Nat) (lang : Option String) (value : String) :
    Uniform (Setting.imageSize ⟨fingerprint, .empty, options⟩)
      (if Setting.isDiagram ⟨fingerprint, .empty, options⟩ lang then [.diagram id] else [])
      fun assets d => d.insertCode ⟨fingerprint, assets, options⟩ id lang value := by
  by_cases hlang : Setting.isDiagram ⟨fingerprint, .empty, options⟩ lang
  · rw [if_pos hlang]
    have hstep : (fun assets d => Draft.insertCode ⟨fingerprint, assets, options⟩ id lang value d) =
        fun assets d => d.insertAsset ⟨fingerprint, assets, options⟩ id := by
      funext assets d
      exact if_pos hlang
    rw [hstep]
    exact uniform_insertAsset id
  · rw [if_neg hlang]
    have hvalue := @uniform_insert (Setting.imageSize ⟨fingerprint, .empty, options⟩) fun _ => value
    have hstyle := @Uniform.pushSome _ _ _ (hvalue.andThen uniform_terminate) (by simp)
      (fun _ d => (d.insert value).index)
      (fun {assets _ _ _} => @Uniform.index _ _ _ hvalue (by simp) assets _ _ _) _
      (styleOver_moved codeStyle) slot?_styleOver
    refine (congrArg (Uniform _ []) ?_).mp hstyle
    funext assets d
    rw [Draft.insertCode, if_neg (by exact hlang), styleOver]
    dsimp only
    split <;> rfl

end

section

variable {options : ExportOptions}

theorem slot?_of_not_diagram {n : Node} {id : Nat} (h : n.isDiagram options = false) :
    n.slot? options ≠ some (.diagram id) := by
  rw [Node.slot?, if_neg (by simp [h])]
  split
  · split <;> simp
  · simp

mutual

theorem diagram_mem_slots : (n : Node) → (∀ m ∈ n.preorder, m.isDiagram options = false) →
    ∀ id, Slot.diagram id ∉ n.slots options
  | .mk i kind children, h, id => by
    rw [Node.preorder, List.forall_mem_cons] at h
    rw [Node.slots, List.mem_append, not_or]
    refine ⟨?_, ?_⟩
    · rw [Option.mem_toList]
      exact slot?_of_not_diagram h.1
    · split
      · exact List.not_mem_nil
      · exact diagram_mem_slotsAll children h.2 id

theorem diagram_mem_slotsAll : (ns : List Node) →
    (∀ m ∈ preorderAll ns, m.isDiagram options = false) → ∀ id, Slot.diagram id ∉ slotsAll options ns
  | [], _, _ => List.not_mem_nil
  | n :: ns, h, id => by
    rw [preorderAll, List.forall_mem_append] at h
    rw [slotsAll, List.mem_append, not_or]
    exact ⟨diagram_mem_slots n h.1 id, diagram_mem_slotsAll ns h.2 id⟩

end

theorem slots_mk {id : Nat} {kind : Kind} {children : List Node}
    (h : (Node.mk id kind children).slot? options = none) (hkind : kind.isTable = false) :
    (Node.mk id kind children).slots options = slotsAll options children := by
  rw [Node.slots, h, hkind]
  rfl

theorem slots_leaf (id : Nat) (kind : Kind) {children : List Node} (h : children.isEmpty) :
    (Node.mk id kind children).slots options =
      ((Node.mk id kind children).slot? options).toList := by
  rw [Node.slots, List.isEmpty_iff.1 h]
  simp [slotsAll]

theorem slot?_code (fingerprint : String) (id : Nat) (lang : Option String) (value : String)
    (children : List Node) : ((Node.mk id (.code lang value) children).slot? options).toList =
      if Setting.isDiagram ⟨fingerprint, .empty, options⟩ lang then [.diagram id] else [] := by
  cases lang with
  | none => rfl
  | some lang =>
    cases h : options.isDiagramLanguage lang <;>
      simp [Node.slot?, Node.isDiagram, Setting.isDiagram, h]

variable (fingerprint : String)

mutual

/-- A node adds the same form under all maps. A style goes over a part of it without gaps. -/
theorem emit_uniform (hnative : options.tableStrategy = .native) : (n : Node) →
    Formed n.preorder → DiagramsApart options n.preorder →
    Uniform (Setting.imageSize ⟨fingerprint, .empty, options⟩) (n.slots options)
      fun assets d => n.emit ⟨fingerprint, assets, options⟩ d
  | .mk id kind children, hformed, hapart => by
    rw [Node.preorder, Formed.cons] at hformed
    rw [Node.preorder, DiagramsApart.cons] at hapart
    have hall := emitAll_uniform hnative children hformed.2 hapart.2
    have hbelow := fun h => diagram_mem_slotsAll children (hapart.1 h)
    simp only [Node.emit]
    cases kind with
    | list start =>
      rw [slots_mk rfl rfl]
      have hitems : ∀ n ∈ children, n.kind = .listItem := by
        simpa [Node.isFormed] using hformed.1
      exact emitItems_uniform hnative children start hitems hformed.2 hapart.2
    | listItem =>
      rw [slots_mk rfl rfl]
      exact (uniform_insert fun _ => options.bullet).trans hall
    | heading depth =>
      rw [slots_mk rfl rfl]
      have hhead := (hall.andThen uniform_terminate).headingSince (hbelow rfl) (.ofDepth depth)
      by_cases hoption : options.headingTextStyles
      · simpa only [hoption, if_true] using
          hhead.styleSince (hbelow rfl) (headingTextStyle depth)
      · simpa only [hoption, Bool.false_eq_true, if_false] using hhead
    | paragraph =>
      rw [slots_mk rfl rfl]
      exact hall.andThen uniform_terminate
    | text value =>
      have hleaf : children.isEmpty = true := hformed.1
      rw [slots_leaf id _ hleaf]
      exact uniform_insert fun _ => value
    | inlineCode value =>
      have hleaf : children.isEmpty = true := hformed.1
      rw [slots_leaf id _ hleaf]
      exact (uniform_insert fun _ => value).styleSince (by simp) inlineCodeStyle
    | strong =>
      rw [slots_mk rfl rfl]
      exact hall.styleSince (hbelow rfl) .isBold
    | emphasis =>
      rw [slots_mk rfl rfl]
      exact hall.styleSince (hbelow rfl) .isItalic
    | link url =>
      rw [slots_mk rfl rfl]
      exact hall.styleSince (hbelow rfl) (.linkTo url)
    | image url alt =>
      have hleaf : children.isEmpty = true := hformed.1
      rw [slots_leaf id _ hleaf]
      by_cases hurl : Web.isAbsoluteUrl url
      · have hslot : (Node.mk id (.image url alt) children).slot? options = some (.named url) :=
          if_pos hurl
        simp only [hslot, hurl, if_true]
        exact uniform_insertImage url
      · have hslot : (Node.mk id (.image url alt) children).slot? options = none := if_neg hurl
        simp only [hslot, hurl, Bool.false_eq_true, if_false]
        exact uniform_insert fun _ => alt
    | code lang value =>
      have hleaf : children.isEmpty = true := hformed.1
      rw [slots_leaf id _ hleaf, slot?_code fingerprint]
      exact uniform_insertCode id lang value
    | table source =>
      have hslots : (Node.mk id (.table source) children).slots options = [] := rfl
      simp only [hslots, Draft.insertTable, hnative]
      exact uniform_insertMarker _
    | _ =>
      rw [slots_mk rfl rfl]
      exact hall

theorem emitAll_uniform (hnative : options.tableStrategy = .native) : (ns : List Node) →
    Formed (preorderAll ns) → DiagramsApart options (preorderAll ns) →
    Uniform (Setting.imageSize ⟨fingerprint, .empty, options⟩) (slotsAll options ns)
      fun assets d => emitAll ⟨fingerprint, assets, options⟩ ns d
  | [], _, _ => .refl _
  | n :: ns, hformed, hapart => by
    rw [preorderAll, Formed.append] at hformed
    rw [preorderAll, DiagramsApart.append] at hapart
    simp only [emitAll, slotsAll]
    exact (emit_uniform hnative n hformed.1 hapart.1).trans
      (emitAll_uniform hnative ns hformed.2 hapart.2)

theorem emitItems_uniform (hnative : options.tableStrategy = .native) : (ns : List Node) →
    (number : Option Nat) → (∀ n ∈ ns, n.kind = .listItem) → Formed (preorderAll ns) →
    DiagramsApart options (preorderAll ns) →
    Uniform (Setting.imageSize ⟨fingerprint, .empty, options⟩) (slotsAll options ns)
      fun assets d => emitItems ⟨fingerprint, assets, options⟩ number ns d
  | [], _, _, _, _ => .refl _
  | .mk id kind children :: ns, number, hitems, hformed, hapart => by
    rw [List.forall_mem_cons] at hitems
    have hkind : kind = .listItem := hitems.1
    subst hkind
    rw [preorderAll, Formed.append, Node.preorder, Formed.cons] at hformed
    rw [preorderAll, DiagramsApart.append, Node.preorder, DiagramsApart.cons] at hapart
    have hmark := @uniform_insert (Setting.imageSize ⟨fingerprint, .empty, options⟩) fun _ =>
      Setting.itemMark ⟨fingerprint, .empty, options⟩ number
    have hitem := hmark.trans (emitAll_uniform hnative children hformed.1.2 hapart.1.2)
    have hslots : (Node.mk id .listItem children).slots options = slotsAll options children :=
      slots_mk rfl rfl
    simp only [emitItems, slotsAll, hslots]
    exact hitem.trans (emitItems_uniform hnative ns _ hitems.2 hformed.2 hapart.2)

end

end

def Draft.markerTexts (fingerprint : String) (d : Draft) : List String :=
  (d.requests.filterMap Request.text?).filter fun text =>
    d.plans.any fun plan => text == placeholder fingerprint plan.ordinal

/-- One document drafted under two asset maps, its tables being native and its diagrams neither styled
nor in tables. Without the pictures of diagrams the requests are the same, but that each stands
further on by two positions for every picture before it; and the tables and their markers are the
same. Maps of the same diagrams make a difference in the addresses of pictures only. -/
theorem compile_abreast (doc : Document) (options : ExportOptions) (assets assets' : AssetMap)
    (hnative : options.tableStrategy = .native) (hformed : Formed doc.nodes)
    (hapart : DiagramsApart options doc.nodes) :
    ∃ ks ks', TakenOut 0 (doc.drawn assets options) (doc.compile assets options).requests ks ∧
      TakenOut 0 (doc.drawn assets' options) (doc.compile assets' options).requests ks' ∧
      ks.length = ks'.length ∧ List.Forall₂ Abreast ks ks' ∧
      (doc.compile assets options).plans = (doc.compile assets' options).plans ∧
      (doc.compile assets options).markerTexts doc.fingerprint =
        (doc.compile assets' options).markerTexts doc.fingerprint ∧
      ((∀ id, (assets.get? id).isSome = (assets'.get? id).isSome) → ks = ks' ∧
        (doc.compile assets options).requests.map Request.withoutUri =
          (doc.compile assets' options).requests.map Request.withoutUri) := by
  rw [Document.nodes, Node.descendants_eq_preorder] at hformed hapart
  obtain ⟨ps, hps, hstep⟩ := emit_uniform doc.fingerprint hnative doc.root hformed hapart .empty
  have hrequests (m : AssetMap) : (doc.compile m options).requests =
      layOut m (Setting.imageSize ⟨doc.fingerprint, .empty, options⟩) 0 ps :=
    (hstep m 0 .empty ⟨rfl, rfl⟩).1
  have htables (m m' : AssetMap) : (doc.compile m options).tables =
      (doc.compile m' options).tables :=
    ((hstep m 0 .empty ⟨rfl, rfl⟩).2.tables).trans (hstep m' 0 .empty ⟨rfl, rfl⟩).2.tables.symm
  have hplans : (doc.compile assets options).plans = (doc.compile assets' options).plans := by
    rw [Draft.plans, Draft.plans, htables]
  have habreast := @remaining_abreast assets assets' ps 0 0
  refine ⟨remaining assets 0 ps, remaining assets' 0 ps, ?_, ?_, habreast.length_eq, habreast,
    hplans, ?_, fun hkeys => ⟨remaining_congr hkeys 0, ?_⟩⟩
  · rw [hrequests, Document.drawn, ← hps]
    exact takenOut_layOut 0
  · rw [hrequests, Document.drawn, ← hps]
    exact takenOut_layOut 0
  · have hfeed : ((doc.compile assets' options).plans.any fun plan =>
        "\n" == placeholder doc.fingerprint plan.ordinal) = false := by
      rw [List.any_eq_false]
      intro plan _ heq
      have hlen := congrArg String.length (eq_of_beq heq)
      have hfeed : "\n".length = 1 := by decide
      have hstart : markerStart.length = 14 := by decide
      simp only [placeholder, String.length_append, hfeed, hstart] at hlen
      omega
    rw [Draft.markerTexts, Draft.markerTexts, hplans, hrequests, hrequests,
      filter_texts_layOut hfeed, filter_texts_layOut hfeed]
  · rw [hrequests, hrequests]
    exact layOut_congr hkeys 0

def picturedPage : Document where
  root := .mk 0 .document
    [.mk 1 (.list (some 1)) [.mk 2 .listItem
        [.mk 3 .paragraph [.mk 4 (.text "first") []],
          .mk 5 (.code (some "Mermaid") "graph") [],
          .mk 6 .paragraph [.mk 7 .strong [.mk 8 (.text "then") []]]]],
      .mk 9 (.code (some "mermaid") "pie") [],
      .mk 10 .paragraph
        [.mk 11 (.link "https://a.test") [.mk 12 (.image "https://a.test/p.png" "P") []]],
      .mk 13 (.table "| A |") [.mk 14 .tableRow [.mk 15 .tableCell [.mk 16 (.text "A") []]]]]
  fingerprint := fingerprint ""

theorem compile_abreast_picturedPage :
    ExportOptions.default.tableStrategy = .native ∧ Formed picturedPage.nodes ∧
      DiagramsApart .default picturedPage.nodes ∧
      ∃ ks ks', TakenOut 0 [.diagram "https://cdn.test/5.png", .named "https://a.test/p.png"]
          (picturedPage.compile ⟨[(5, "https://cdn.test/5.png")]⟩ .default).requests ks ∧
        TakenOut 0 [.diagram "https://cdn.test/9.png", .named "https://a.test/p.png"]
          (picturedPage.compile ⟨[(9, "https://cdn.test/9.png")]⟩ .default).requests ks' ∧
        List.Forall₂ Abreast ks ks' := by
  have hformed : Formed picturedPage.nodes := by decide +kernel
  have hapart : DiagramsApart .default picturedPage.nodes := by decide +kernel
  have hleft : picturedPage.drawn ⟨[(5, "https://cdn.test/5.png")]⟩ .default =
      [.diagram "https://cdn.test/5.png", .named "https://a.test/p.png"] := by decide +kernel
  have hright : picturedPage.drawn ⟨[(9, "https://cdn.test/9.png")]⟩ .default =
      [.diagram "https://cdn.test/9.png", .named "https://a.test/p.png"] := by decide +kernel
  obtain ⟨ks, ks', hks, hks', -, habreast, -⟩ :=
    compile_abreast picturedPage .default ⟨[(5, "https://cdn.test/5.png")]⟩
      ⟨[(9, "https://cdn.test/9.png")]⟩ rfl hformed hapart
  rw [hleft] at hks
  rw [hright] at hks'
  exact ⟨rfl, hformed, hapart, ks, ks', hks, hks', habreast⟩

end Folio
