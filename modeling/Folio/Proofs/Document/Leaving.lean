import Mathlib.Data.List.Induction
import Mathlib.Tactic.Choose
import Folio.Document.Basic
/-!
What events leave to the span that they stand in. Events whose starts and stops match leave the same
nodes wherever they stand, a block of code apart (`Spanned.leaves`): what stood there before them only
decides whether the first text is a text of its own.
-/
set_option autoImplicit false

namespace Folio

namespace Markdown

/-- Events whose starts and stops match; `holds` says what may stand in the spans of a tag. -/
inductive Spanned (holds : Tag → List Event → Prop) : List Event → Prop where
  | nil : Spanned holds []
  | leaf {e : Event} {es : List Event} (he : e.isLeaf = true) (hes : Spanned holds es) :
      Spanned holds (e :: es)
  | span {tag : Tag} {inner es : List Event} (hholds : holds tag inner)
      (hinner : Spanned holds inner) (hes : Spanned holds es) :
      Spanned holds (span tag inner ++ es)

abbrev Matched : List Event → Prop := Spanned fun _ _ => True

section

variable {holds : Tag → List Event → Prop} {tag : Tag} {es as bs inner : List Event}

theorem Spanned.one (hholds : holds tag inner) (hinner : Spanned holds inner) :
    Spanned holds (Markdown.span tag inner) := by
  simpa using Spanned.span hholds hinner .nil

theorem Spanned.append (h : Spanned holds as) (h' : Spanned holds bs) : Spanned holds (as ++ bs) := by
  induction h with
  | nil => exact h'
  | leaf he _ ih => exact .leaf he ih
  | span hholds hinner _ _ ih => simpa using Spanned.span hholds hinner ih

theorem Nested.spanned {l : Level} (h : Nested l es)
    (hholds : ∀ (tag : Tag) (inner : List Event), Nested tag.inside inner → holds tag inner) :
    Spanned holds es := by
  induction h with
  | nil => exact .nil
  | leaf he _ _ ih => exact .leaf he ih
  | span _ hinner _ ihinner ih => exact .span (hholds _ _ hinner) ihinner ih

end

end Markdown

open Markdown (Event Tag Spanned Matched)

/-- The nodes of a sequence in which a text goes on with the text before it. -/
def joined (ns : List Node) : List Node := (ns.foldl (fun before n => joinNode n before) []).reverse

theorem pushAll_eq (f : Frame) (ns : List Node) : ns.foldl Frame.push f =
    { f with children := ns.foldl (fun before n => joinNode n before) f.children } := by
  induction ns generalizing f with
  | nil => rfl
  | cons n ns ih => exact ih (f.push n)

@[simp] theorem Frame.span_pushAll (f : Frame) (ns : List Node) :
    (ns.foldl Frame.push f).span = f.span := by
  rw [pushAll_eq]

theorem pushAll_new (sp : Span) (ns : List Node) :
    ns.foldl Frame.push (.new sp) = ⟨sp, (joined ns).reverse, ""⟩ := by
  rw [pushAll_eq, joined, List.reverse_reverse]
  rfl

theorem joinNode_of_ne {n : Node} (h : ∀ value, n.kind ≠ .text value) (before : List Node) :
    joinNode n before = n :: before := by
  cases before with
  | nil => rfl
  | cons top rest =>
    rw [joinNode]
    split
    · rename_i value _ hvalue
      exact absurd hvalue (h _)
    · rfl

theorem joinNode_joinNode {top n : Node} {a b : String} (htop : top.kind = .text a)
    (hn : n.kind = .text b) (before : List Node) : joinNode n (joinNode top before) =
      joinNode (.mk top.id (.text (a ++ b)) top.children) before := by
  cases before with
  | nil => simp [joinNode, htop, hn]
  | cons t ts =>
    cases ht : t.kind with
    | text c => simp [joinNode, htop, hn, ht, String.append_assoc]
    | _ => simp [joinNode, htop, hn, ht]

/-- It makes no difference whether texts are joined before they are added. -/
theorem foldl_joined (before ns : List Node) :
    (joined ns).foldl (fun before n => joinNode n before) before =
      ns.foldl (fun before n => joinNode n before) before := by
  induction ns using List.reverseRecOn with
  | nil => rfl
  | append_singleton ns n ih =>
    have hjoined : joined (ns ++ [n]) = (joinNode n (joined ns).reverse).reverse := by
      simp [joined]
    rw [hjoined, List.foldl_append, List.foldl_cons, List.foldl_nil, ← ih]
    obtain ⟨r, hr⟩ : ∃ r, joined ns = List.reverse r := ⟨(joined ns).reverse, by simp⟩
    rw [hr, List.reverse_reverse]
    cases r with
    | nil => rfl
    | cons top rest =>
      rw [joinNode.eq_def]
      dsimp only
      split
      · rename_i a b htop hn
        simp only [List.reverse_cons, List.foldl_append, List.foldl_cons, List.foldl_nil]
        exact (joinNode_joinNode htop hn _).symm
      · simp

/-- Whatever the innermost frame is, the events turn it into another one of its span, and touch no other. -/
def Alters (es : List Event) (g : Frame → Frame) : Prop :=
  ∀ (f : Frame) (outer : List Frame),
    (Frames.mk f outer).run? es = some ⟨g f, outer⟩ ∧ (g f).span = f.span

/-- The events add these nodes, one after the other, to any frame but that of a block of code. -/
def Leaves (es : List Event) (ns : List Node) : Prop :=
  ∀ (f : Frame) (outer : List Frame), (∀ lang, f.span ≠ .code lang) →
    (Frames.mk f outer).run? es = some ⟨ns.foldl Frame.push f, outer⟩

section

variable {holds : Tag → List Event → Prop} {tag : Tag} {es as bs inner : List Event}
  {ns ms : List Node} {g g' : Frame → Frame}

theorem Alters.append (h : Alters as g) (h' : Alters bs g') : Alters (as ++ bs) (g' ∘ g) := by
  intro f outer
  obtain ⟨hrun, hspan⟩ := h f outer
  obtain ⟨hrun', hspan'⟩ := h' (g f) outer
  rw [Frames.run?_append, hrun]
  exact ⟨hrun', hspan'.trans hspan⟩

theorem Alters.span (h : Alters inner g) :
    Alters (Markdown.span tag inner) fun f => (g (.new (.ofTag tag))).finish.foldl Frame.push f := by
  intro f outer
  refine ⟨?_, Frame.span_pushAll _ _⟩
  simp [Markdown.span, Frames.run?, Frames.step?, Frames.run?_append,
    (h (.new (.ofTag tag)) (f :: outer)).1]

theorem alters_leaf {e : Event} (he : e.isLeaf = true) : ∃ g, Alters [e] g := by
  cases e with
  | start | stop => cases he
  | text value =>
    have hall (f : Frame) : ∃ f', ∀ outer,
        (Frames.mk f outer).run? [.text value] = some ⟨f', outer⟩ ∧ f'.span = f.span := by
      simp only [Frames.run?, Frames.step?]
      split
      · exact ⟨{ f with text := f.text ++ value }, fun _ => ⟨rfl, rfl⟩⟩
      · exact ⟨f.push (.leaf (.text value)), fun _ => ⟨rfl, rfl⟩⟩
    choose g hg using hall
    exact ⟨g, hg⟩
  | code | softBreak | hardBreak => exact ⟨fun f => f.push _, fun _ _ => ⟨rfl, rfl⟩⟩
  | html | rule => exact ⟨id, fun _ _ => ⟨rfl, rfl⟩⟩

theorem Spanned.alters (h : Spanned holds es) : ∃ g, Alters es g := by
  induction h with
  | nil => exact ⟨id, fun _ _ => ⟨rfl, rfl⟩⟩
  | leaf he _ ih =>
    obtain ⟨g, hg⟩ := alters_leaf he
    obtain ⟨g', hg'⟩ := ih
    exact ⟨_, hg.append hg'⟩
  | span _ _ _ ihinner ih =>
    obtain ⟨g, hg⟩ := ihinner
    obtain ⟨g', hg'⟩ := ih
    exact ⟨_, hg.span.append hg'⟩

theorem Leaves.nil : Leaves [] [] := fun _ _ _ => rfl

theorem Leaves.append (h : Leaves as ns) (h' : Leaves bs ms) : Leaves (as ++ bs) (ns ++ ms) := by
  intro f outer hf
  rw [Frames.run?_append, h f outer hf, List.foldl_append]
  exact h' _ outer (by simpa using hf)

theorem leaves_leaf {e : Event} {n : Node}
    (h : ∀ fs : Frames, (∀ lang, fs.top.span ≠ .code lang) → fs.step? e = some (fs.push n)) :
    Leaves [e] [n] := fun f outer hf => by
  rw [Frames.run?, h ⟨f, outer⟩ hf]
  rfl

theorem leaves_text (value : String) : Leaves [.text value] [.leaf (.text value)] :=
  leaves_leaf fun fs hcode => by
    rw [Frames.step?]
    split
    · rename_i h
      exact absurd h (hcode _)
    · rfl

theorem Alters.leaves_span (h : Alters inner g) :
    Leaves (Markdown.span tag inner) (g (.new (.ofTag tag))).finish :=
  fun f outer _ => (h.span f outer).1

/-- What a span leaves follows from what the events in it leave. -/
theorem Leaves.span (h : Leaves inner ms) (hcode : ∀ lang, Span.ofTag tag ≠ .code lang) :
    Leaves (Markdown.span tag inner) (Frame.mk (.ofTag tag) (joined ms).reverse "").finish := by
  intro f outer _
  rw [Markdown.span, Frames.run?, Frames.step?, Option.bind_some, Frames.run?_append,
    h _ _ hcode, pushAll_new]
  rfl

theorem exists_leaves_leaf {e : Event} (he : e.isLeaf = true) :
    ∃ ns, Leaves [e] ns ∧ ∀ n ∈ ns, ∃ kind : Kind, kind.isInline = true ∧ n = .leaf kind := by
  cases e with
  | start | stop => cases he
  | text value => exact ⟨_, leaves_text value, List.forall_mem_singleton.2 ⟨_, rfl, rfl⟩⟩
  | code | softBreak | hardBreak =>
    exact ⟨_, leaves_leaf fun _ _ => rfl, List.forall_mem_singleton.2 ⟨_, rfl, rfl⟩⟩
  | html | rule => exact ⟨[], fun _ _ _ => rfl, List.forall_mem_nil _⟩

theorem Spanned.leaves (h : Spanned holds es) : ∃ ns, Leaves es ns := by
  induction h with
  | nil => exact ⟨[], .nil⟩
  | leaf he _ ih =>
    obtain ⟨ns, hns, -⟩ := exists_leaves_leaf he
    obtain ⟨ms, hms⟩ := ih
    exact ⟨_, hns.append hms⟩
  | span _ hinner _ _ ih =>
    obtain ⟨g, hg⟩ := Spanned.alters hinner
    obtain ⟨ms, hms⟩ := ih
    exact ⟨_, hg.leaves_span.append hms⟩

theorem nodes?_of_leaves (h : Leaves es ns) : nodes? es = some (joined ns) := by
  have hrun := h (.new (.node .document)) [] fun _ => Span.noConfusion
  rw [nodes?, Frames.start, hrun, pushAll_new]
  simp

theorem Spanned.leaves_of_nodes? (h : Spanned holds es) (hns : nodes? es = some ns) :
    Leaves es ns := by
  obtain ⟨ms, hms⟩ := Spanned.leaves h
  obtain rfl : joined ms = ns := Option.some.inj ((nodes?_of_leaves hms).symm.trans hns)
  intro f outer hf
  rw [hms f outer hf, pushAll_eq, pushAll_eq, foldl_joined]

theorem Document.ofMarkdown_root [Markdown.Parser] {markdown : String}
    (h : Leaves (Markdown.events markdown) ns) :
    (Document.ofMarkdown markdown).root = (Document.ofNodes (joined ns)).root := by
  rw [ofMarkdown, Option.get_of_eq_some _ (nodes?_of_leaves h), withSource]

end

end Folio
