import Mathlib.Data.List.Chain
import Mathlib.Data.List.Infix
import Folio.Proofs.Document.Numbering
import Folio.Proofs.Document.Runs
import Folio.Proofs.Document.Shaped
/-!
The normal form of a tree that is built from events: no two texts stand side by side, items hold no
inline nodes, and leaves hold nothing (`nodes?_normalForm`). Every open frame is in this form after
every event, whatever the events are. What an item holds is divided into its maximal runs of inline
nodes and its other nodes, each of which gives one child.
-/
set_option autoImplicit false

namespace Folio

open Markdown (Event Tag Matched)
open Node (preorderAll numberAll)

def Kind.isText : Kind → Bool
  | .text _ => true
  | _ => false

def Kind.isLeaf : Kind → Bool
  | .text _ | .inlineCode _ | .image .. | .code .. => true
  | _ => false

def TextsApart (ns : List Node) : Prop :=
  ns.IsChain fun a b => ¬(a.kind.isText = true ∧ b.kind.isText = true)

structure Node.Normal (n : Node) : Prop where
  texts : TextsApart n.children
  item : n.kind = .listItem → ∀ c ∈ n.children, c.isInline = false
  leaf : n.kind.isLeaf = true → n.children = []

def NormalAll (ns : List Node) : Prop := ∀ n ∈ preorderAll ns, n.Normal

section

variable {n : Node} {ns ms : List Node}

theorem normalAll_cons : NormalAll (n :: ns) ↔ (∀ m ∈ n.preorder, m.Normal) ∧ NormalAll ns :=
  List.forall_mem_append

theorem normalAll_append : NormalAll (ns ++ ms) ↔ NormalAll ns ∧ NormalAll ms := by
  rw [NormalAll, Node.preorderAll_append]
  exact List.forall_mem_append

theorem normalAll_reverse : NormalAll ns.reverse ↔ NormalAll ns := by
  simp only [NormalAll, Node.mem_preorderAll_reverse]

theorem NormalAll.stretch (h : NormalAll ms) (hsub : ns <:+: ms) : NormalAll ns := by
  obtain ⟨front, back, rfl⟩ := hsub
  exact (normalAll_append.1 (normalAll_append.1 h).1).2

theorem normal_preorder {id : Nat} {kind : Kind} {children : List Node} :
    (∀ m ∈ (Node.mk id kind children).preorder, m.Normal) ↔
      (Node.mk id kind children).Normal ∧ NormalAll children := by
  rw [Node.preorder]
  exact List.forall_mem_cons

theorem textsApart_reverse : TextsApart ns.reverse ↔ TextsApart ns := by
  rw [TextsApart, List.isChain_reverse, TextsApart]
  simp only [and_comm]

theorem textsApart_of_blocks (h : ∀ n ∈ ns, n.isInline = false) : TextsApart ns := by
  have hnone : ∀ n ∈ ns, ¬n.kind.isText = true := by
    intro n hn htext
    have hblock := h n hn
    rw [Node.isInline] at hblock
    cases hkind : n.kind <;> simp_all [Kind.isText, Kind.isInline]
  refine List.Pairwise.isChain (List.pairwise_of_forall_mem_list ?_)
  exact fun a ha _ _ htexts => hnone a ha htexts.1

theorem normal_leaf (kind : Kind) : ∀ m ∈ (Node.leaf kind).preorder, m.Normal :=
  normal_preorder.2 ⟨⟨.nil, fun _ => by simp, fun _ => rfl⟩, by simp [NormalAll, preorderAll]⟩

theorem normal_new {kind : Kind} (hitem : kind ≠ .listItem) (hleaf : kind.isLeaf = false)
    (htexts : TextsApart ns) (h : NormalAll ns) : ∀ m ∈ (Node.new kind ns).preorder, m.Normal :=
  normal_preorder.2 ⟨⟨htexts, fun h => absurd h hitem, fun h => absurd h (by simp [hleaf])⟩, h⟩

end

inductive Stretch where
  | run (ns : List Node)
  | block (b : Node)

namespace Stretch

def nodes : Stretch → List Node
  | run ns => ns
  | block b => [b]

def isRun : Stretch → Bool
  | run _ => true
  | block _ => false

def Proper : Stretch → Prop
  | run ns => ns ≠ [] ∧ ∀ n ∈ ns, n.isInline = true
  | block b => b.isInline = false

def child : Stretch → Node
  | run ns => .new .paragraph ns
  | block b => b

end Stretch

/-- The nodes are divided, in order, into their maximal inline runs and their other nodes, and each
of these gives one node. -/
def Wraps (before after : List Node) : Prop :=
  ∃ parts : List Stretch, (∀ p ∈ parts, p.Proper) ∧
    parts.IsChain (fun p q => ¬(p.isRun = true ∧ q.isRun = true)) ∧
    before = parts.flatMap Stretch.nodes ∧ after = parts.map Stretch.child

theorem Wraps.block {b : Node} (hb : b.isInline = false) {before after : List Node}
    (h : Wraps before after) : Wraps (b :: before) (b :: after) := by
  obtain ⟨parts, hproper, hchain, rfl, rfl⟩ := h
  exact ⟨.block b :: parts, List.forall_mem_cons.2 ⟨hb, hproper⟩,
    List.isChain_cons.2 ⟨fun _ _ h => Bool.false_ne_true h.1, hchain⟩, rfl, rfl⟩

theorem Wraps.run {run : List Node} (hne : run ≠ []) (hrun : ∀ n ∈ run, n.isInline = true) {b : Node}
    (hb : b.isInline = false) {before after : List Node} (h : Wraps before after) :
    Wraps (run ++ b :: before) (.new .paragraph run :: b :: after) := by
  obtain ⟨parts, hproper, hchain, rfl, rfl⟩ := h
  refine ⟨.run run :: .block b :: parts, List.forall_mem_cons.2 ⟨⟨hne, hrun⟩,
    List.forall_mem_cons.2 ⟨hb, hproper⟩⟩, List.isChain_cons.2 ⟨?_, List.isChain_cons.2
    ⟨fun _ _ h => Bool.false_ne_true h.1, hchain⟩⟩, rfl, rfl⟩
  rintro q ⟨rfl⟩ h
  exact Bool.false_ne_true h.2

theorem wraps_wrapRuns (run : List Node) (hrun : ∀ n ∈ run, n.isInline = true) (ns : List Node) :
    Wraps (run.reverse ++ ns) (wrapRuns run ns) := by
  have hreverse {run : List Node} (h : ∀ n ∈ run, n.isInline = true) :
      ∀ n ∈ run.reverse, n.isInline = true := fun n hn => h n (List.mem_reverse.1 hn)
  fun_induction wrapRuns run ns with
  | case1 => exact ⟨[], by simp, .nil, rfl, rfl⟩
  | case2 run hne =>
    exact ⟨[.run run.reverse], by simpa [Stretch.Proper] using ⟨hne, hrun⟩, .singleton _,
      by simp [Stretch.nodes], rfl⟩
  | case3 run n ns hinline ih =>
    have hopen := ih (List.forall_mem_cons.2 ⟨hinline, hrun⟩)
    simpa using hopen
  | case4 run n ns hinline hempty ih =>
    obtain rfl := List.isEmpty_iff.1 hempty
    exact .block (Bool.eq_false_iff.2 hinline) (ih (by simp))
  | case5 run n ns hinline hempty ih =>
    have hne : run.reverse ≠ [] := by simpa using hempty
    exact .run hne (hreverse hrun) (Bool.eq_false_iff.2 hinline) (ih (by simp))

theorem Wraps.normal {before after : List Node} (h : Wraps before after) (htexts : TextsApart before)
    (hnormal : NormalAll before) : (∀ n ∈ after, n.isInline = false) ∧ NormalAll after := by
  obtain ⟨parts, hproper, -, rfl, rfl⟩ := h
  have hchild : ∀ p ∈ parts, p.child.isInline = false ∧ ∀ m ∈ p.child.preorder, m.Normal := by
    intro p hp
    have hsub : p.nodes <:+: parts.flatMap Stretch.nodes :=
      List.infix_of_mem_flatten (List.mem_map_of_mem hp)
    cases p with
    | run ns => exact ⟨rfl, normal_new (by simp) rfl ( List.IsChain.infix htexts hsub) (hnormal.stretch hsub)⟩
    | block b => exact ⟨hproper _ hp, (normalAll_cons.1 (hnormal.stretch hsub)).1⟩
  clear htexts hnormal hproper
  induction parts with
  | nil => simp [NormalAll, preorderAll]
  | cons p parts ih =>
    obtain ⟨hp, hparts⟩ := List.forall_mem_cons.1 hchild
    obtain ⟨hblocks, hbelow⟩ := ih hparts
    exact ⟨List.forall_mem_cons.2 ⟨hp.1, hblocks⟩, normalAll_cons.2 ⟨hp.2, hbelow⟩⟩

/-- The children so far are in normal form, and the span becomes no leaf. -/
structure Frame.Normal (f : Frame) : Prop where
  texts : TextsApart f.children
  below : NormalAll f.children
  span : ∀ kind, f.span = .node kind → kind.isLeaf = false

def Frames.Normal (fs : Frames) : Prop := ∀ f ∈ fs.top :: fs.outer, f.Normal

/-- A text goes on with the text before it, so it never comes to stand behind one. -/
theorem Frame.Normal.push {f : Frame} (h : f.Normal) {n : Node} (hn : ∀ m ∈ n.preorder, m.Normal) :
    (f.push n).Normal := by
  obtain ⟨sp, children, text⟩ := f
  suffices hjoin : TextsApart (joinNode n children) ∧ NormalAll (joinNode n children) from
    ⟨hjoin.1, hjoin.2, h.span⟩
  cases children with
  | nil => exact ⟨.singleton n, normalAll_cons.2 ⟨hn, h.below⟩⟩
  | cons top rest =>
    rw [joinNode]
    split
    · rename_i before value hbefore hvalue
      obtain ⟨id, kind, cs⟩ := top
      obtain rfl : kind = .text before := hbefore
      obtain ⟨hhead, hrest⟩ := List.isChain_cons.1 h.texts
      obtain ⟨htop, hbelow⟩ := normalAll_cons.1 h.below
      obtain ⟨hself, hcs⟩ := normal_preorder.1 htop
      refine ⟨List.isChain_cons.2 ⟨hhead, hrest⟩, normalAll_cons.2 ⟨normal_preorder.2 ⟨?_, hcs⟩, hbelow⟩⟩
      exact ⟨hself.texts, by simp, fun _ => hself.leaf rfl⟩
    · rename_i hne
      refine ⟨List.isChain_cons.2 ⟨?_, h.texts⟩, normalAll_cons.2 ⟨hn, h.below⟩⟩
      rintro m ⟨rfl⟩ ⟨hntext, htoptext⟩
      cases htop : top.kind with
      | text before =>
        cases hkind : n.kind with
        | text value => exact hne before value htop hkind
        | _ => simp [hkind, Kind.isText] at hntext
      | _ => simp [htop, Kind.isText] at htoptext

theorem Frame.Normal.pushAll {f : Frame} (h : f.Normal) {ns : List Node} (hns : NormalAll ns) :
    (ns.foldl Frame.push f).Normal := by
  induction ns generalizing f with
  | nil => exact h
  | cons n ns ih =>
    obtain ⟨hn, hns⟩ := normalAll_cons.1 hns
    exact ih (h.push hn) hns

theorem Frame.Normal.new (tag : Tag) : (Frame.new (.ofTag tag)).Normal := by
  refine ⟨.nil, by simp [NormalAll, Frame.new, preorderAll], fun kind hkind => ?_⟩
  cases tag <;> first | cases hkind; rfl | cases hkind

theorem Frame.Normal.finish {f : Frame} (h : f.Normal) : NormalAll f.finish := by
  have htexts : TextsApart f.children.reverse := textsApart_reverse.2 h.texts
  have hbelow : NormalAll f.children.reverse := normalAll_reverse.2 h.below
  have hone {n : Node} (hn : ∀ m ∈ n.preorder, m.Normal) : NormalAll [n] :=
    normalAll_cons.2 ⟨hn, by simp [NormalAll, preorderAll]⟩
  rw [Frame.finish]
  split
  · have hwraps := wraps_wrapRuns [] (by simp) f.children.reverse
    obtain ⟨hblocks, hchildren⟩ := hwraps.normal htexts hbelow
    exact hone (normal_preorder.2
      ⟨⟨textsApart_of_blocks hblocks, fun _ => hblocks, by simp [Kind.isLeaf]⟩, hchildren⟩)
  · rename_i kind hitem hspan
    refine hone (normal_new (fun heq => ?_) (h.span kind hspan) htexts hbelow)
    exact hitem heq
  · exact hbelow
  · exact hone (normal_leaf _)
  · exact hone (normal_leaf _)

theorem Frames.Normal.step {fs fs' : Frames} (h : fs.Normal) {e : Event}
    (hstep : fs.step? e = some fs') : fs'.Normal := by
  obtain ⟨htop, houter⟩ := List.forall_mem_cons.1 h
  have hpush (kind : Kind) : (fs.push (.leaf kind)).Normal :=
    List.forall_mem_cons.2 ⟨htop.push (normal_leaf kind), houter⟩
  cases e with
  | start tag =>
    cases hstep
    exact List.forall_mem_cons.2 ⟨.new tag, h⟩
  | stop =>
    rw [Frames.step?] at hstep
    split at hstep
    · cases hstep
    · rename_i parent rest hfs
      cases hstep
      rw [hfs] at houter
      obtain ⟨hparent, hrest⟩ := List.forall_mem_cons.1 houter
      exact List.forall_mem_cons.2 ⟨hparent.pushAll htop.finish, hrest⟩
  | text value =>
    rw [Frames.step?] at hstep
    split at hstep
    · cases hstep
      exact List.forall_mem_cons.2 ⟨⟨htop.texts, htop.below, htop.span⟩, houter⟩
    · cases hstep
      exact hpush _
  | code | softBreak | hardBreak =>
    cases hstep
    exact hpush _
  | html | rule =>
    cases hstep
    exact h

theorem Frames.Normal.run {fs fs' : Frames} (h : fs.Normal) {es : List Event}
    (hrun : fs.run? es = some fs') : fs'.Normal := by
  induction es generalizing fs with
  | nil =>
    cases hrun
    exact h
  | cons e es ih =>
    obtain ⟨next, hstep, hrest⟩ := Option.bind_eq_some_iff.1 hrun
    exact ih (h.step hstep) hrest

theorem Frames.Normal.start : Frames.start.Normal := by
  refine List.forall_mem_cons.2 ⟨⟨.nil, ?_, fun kind hkind => ?_⟩, by simp [Frames.start]⟩
  · simp [NormalAll, Frames.start, Frame.new, preorderAll]
  · cases hkind
    rfl

theorem normalAll_of_nodes? {es : List Event} {ns : List Node} (h : nodes? es = some ns) :
    TextsApart ns ∧ NormalAll ns := by
  rw [nodes?] at h
  split at h
  · rename_i top hrun
    cases h
    obtain ⟨htop, -⟩ := List.forall_mem_cons.1 (Frames.Normal.start.run hrun)
    exact ⟨textsApart_reverse.2 htop.texts, normalAll_reverse.2 htop.below⟩
  · cases h

theorem textsApart_iff (ns : List Node) : TextsApart ns ↔
    (ns.map Node.kind).IsChain fun a b => ¬(a.isText = true ∧ b.isText = true) := by
  rw [List.isChain_map]
  rfl

theorem ignoresIds_normal : Node.IgnoresIds Node.Normal := by
  intro id next kind children h
  have hkinds := Node.kinds_numberAll (next + 1) children
  refine ⟨?_, fun hitem c hc => ?_, fun hleaf => ?_⟩
  · rw [Node.children_mk, textsApart_iff, hkinds, ← textsApart_iff]
    exact h.texts
  · have hmem : c.kind ∈ children.map Node.kind := hkinds ▸ List.mem_map_of_mem hc
    obtain ⟨c', hc', hkind⟩ := List.mem_map.1 hmem
    rw [Node.isInline, ← hkind]
    exact h.item hitem c' hc'
  · obtain rfl : children = [] := h.leaf hleaf
    rfl

/-- Events whose starts and stops match make a tree in normal form. An item in which they stand holds
their nodes, each maximal inline run in a paragraph of its own and all others as they are. -/
theorem nodes?_normalForm {es : List Event} (h : Matched es) :
    ∃ ns, nodes? es = some ns ∧ (∀ n ∈ (Document.ofNodes ns).nodes, n.Normal) ∧
      ∃ children, Leaves (Markdown.span .item es) [.new .listItem children] ∧ Wraps ns children := by
  obtain ⟨ms, hleaves⟩ := Spanned.leaves h
  have hns := nodes?_of_leaves hleaves
  obtain ⟨htexts, hbelow⟩ := normalAll_of_nodes? hns
  refine ⟨joined ms, hns, ?_, itemChildren ms, leaves_item hleaves, ?_⟩
  · rw [Document.nodes, Node.descendants_eq_preorder]
    exact ignoresIds_normal.number 0 _ (normal_new (by simp) rfl htexts hbelow)
  · exact wraps_wrapRuns [] (by simp) (joined ms)

theorem nodes?_normalForm_lifted :
    (∀ n ∈ (Document.ofNodes
        [.leaf (.text "ab"), .new .paragraph [.leaf (.text "c")], .leaf (.text "d")]).nodes, n.Normal) ∧
      Wraps [.leaf (.text "ab"), .new .paragraph [.leaf (.text "c")], .leaf (.text "d")]
        [.new .paragraph [.leaf (.text "ab")], .new .paragraph [.leaf (.text "c")],
          .new .paragraph [.leaf (.text "d")]] := by
  have htext (value : String) : Matched [.text value] := .leaf rfl .nil
  have hmatched : Matched ([.text "a"] ++ Markdown.span .strikethrough [.text "b"] ++
      Markdown.span .paragraph [.text "c"] ++ [.text "d"]) :=
    (((htext "a").append (.one trivial (htext "b"))).append (.one trivial (htext "c"))).append (htext "d")
  obtain ⟨ns, hns, hnormal, children, hleaves, hwraps⟩ := nodes?_normalForm hmatched
  cases hns
  cases (nodes?_of_leaves hleaves : some _ = _)
  exact ⟨hnormal, hwraps⟩

end Folio
