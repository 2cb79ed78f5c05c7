import Folio.Markdown.Reader
import Folio.Proofs.Document.Outlined
/-!
Which inline content of an item shares a paragraph. A block that leaves a node parts what stands before
it in the item from what stands behind it; between such blocks all inline nodes are in one paragraph,
whatever else stood between them (`item_runs`). A rule or raw HTML leaves no node, so the words on both
of its sides run together (`rule_runsTogether`).
-/
set_option autoImplicit false

namespace Folio

namespace Markdown

def TagOf.isBlock {α : Type} : TagOf α → Bool
  | .paragraph | .heading _ | .fenced _ | .indented | .list _ | .item | .table _ | .tableHead
  | .tableRow | .tableCell => true
  | _ => false

/-- Events that leave a block: one of them is a span of such a block, or a span that leaves its children
to its parent and holds such events. -/
inductive LeavesBlock : List Event → Prop where
  | block {tag : Tag} {inner : List Event} (htag : tag.isBlock = true) (hinner : Matched inner) :
      LeavesBlock (span tag inner)
  | lifted {tag : Tag} {inner : List Event} (htag : Span.ofTag tag = .lifted)
      (h : LeavesBlock inner) : LeavesBlock (span tag inner)
  | among {es : List Event} (h : LeavesBlock es) {as bs : List Event} (ha : Matched as)
      (hb : Matched bs) : LeavesBlock (as ++ es ++ bs)

/-- Rules and raw HTML, and what starts and stops the spans that have no node. -/
def EventOf.leavesNothing : Event → Bool
  | .start tag => Span.ofTag tag == .lifted
  | .stop | .html | .rule => true
  | _ => false

end Markdown

open Markdown (Event EventOf Tag Spanned Matched LeavesBlock)

/-- The children of an item whose events leave these nodes. -/
def itemChildren (ns : List Node) : List Node := wrapRuns [] (joined ns)

section

variable {b : Node} {xs ys run : List Node}

theorem ne_text_of_block (hb : b.isInline = false) (value : String) : b.kind ≠ .text value := by
  intro h
  rw [Node.isInline, h] at hb
  cases hb

theorem joined_block (hb : b.isInline = false) (xs ys : List Node) :
    joined (xs ++ b :: ys) = joined xs ++ b :: joined ys := by
  have hbehind (before after : List Node) :
      ys.foldl (fun before n => joinNode n before) (before ++ b :: after) =
        ys.foldl (fun before n => joinNode n before) before ++ b :: after := by
    induction ys generalizing before with
    | nil => rfl
    | cons n ys ih =>
      have hstep : joinNode n (before ++ b :: after) = joinNode n before ++ b :: after := by
        cases before with
        | nil =>
          change joinNode n (b :: after) = n :: b :: after
          rw [joinNode]
          split
          · rename_i value _ h _
            exact absurd h (ne_text_of_block hb value)
          · rfl
        | cons top rest =>
          rw [List.cons_append, joinNode, joinNode]
          split <;> rfl
      rw [List.foldl_cons, hstep, ih]
      rfl
  rw [joined, List.foldl_append, List.foldl_cons, joinNode_of_ne (ne_text_of_block hb)]
  have hb' := hbehind [] (xs.foldl (fun before n => joinNode n before) [])
  rw [List.nil_append] at hb'
  rw [hb']
  simp [joined]

theorem wrapRuns_block (hb : b.isInline = false) (run xs ys : List Node) :
    wrapRuns run (xs ++ b :: ys) = wrapRuns run xs ++ b :: wrapRuns [] ys := by
  fun_induction wrapRuns run xs with
  | case1 => simp [wrapRuns, hb]
  | case2 run hrun =>
    have hempty : run.isEmpty = false := by
      cases run with
      | nil => exact absurd rfl (hrun)
      | cons => rfl
    simp [wrapRuns, hb, hempty]
  | case3 run n ns hinline ih => simpa [wrapRuns, hinline] using ih
  | case4 run n ns hinline hempty ih => simpa [wrapRuns, hinline, hempty] using ih
  | case5 run n ns hinline hempty ih => simpa [wrapRuns, hinline, hempty] using ih

/-- What stands before a block and what stands behind it are apart. -/
theorem itemChildren_block (hb : b.isInline = false) (xs ys : List Node) :
    itemChildren (xs ++ b :: ys) = itemChildren xs ++ b :: itemChildren ys := by
  rw [itemChildren, joined_block hb, wrapRuns_block hb]
  rfl

@[simp] theorem itemChildren_nil : itemChildren [] = [] := rfl

theorem wrapRuns_inline (h : ∀ n ∈ xs, n.isInline = true) (hne : run ++ xs ≠ []) :
    wrapRuns run xs = [.new .paragraph (run.reverse ++ xs)] := by
  induction xs generalizing run with
  | nil =>
    cases run with
    | nil => exact absurd rfl hne
    | cons => simp [wrapRuns]
  | cons n xs ih =>
    obtain ⟨hn, hxs⟩ := List.forall_mem_cons.1 h
    rw [wrapRuns, if_pos hn, ih hxs (by simp)]
    simp

def HasBlock (ns : List Node) : Prop := ∃ b ∈ ns, b.isInline = false

theorem hasBlock_append : HasBlock (xs ++ ys) ↔ HasBlock xs ∨ HasBlock ys := by
  simp [HasBlock, or_and_right, exists_or]

theorem hasBlock_joinNode (n : Node) (before : List Node) :
    HasBlock (joinNode n before) ↔ HasBlock before ∨ n.isInline = false := by
  cases before with
  | nil => simp [joinNode, HasBlock]
  | cons top rest =>
    rw [joinNode]
    split
    · rename_i before value hbefore hvalue
      simp [HasBlock, Node.isInline, hbefore, hvalue, Kind.isInline]
    · simp [HasBlock, or_comm]

theorem hasBlock_joined (ns : List Node) : HasBlock (joined ns) ↔ HasBlock ns := by
  suffices hall : ∀ before, HasBlock (ns.foldl (fun before n => joinNode n before) before) ↔
      HasBlock before ∨ HasBlock ns by
    simpa [joined, HasBlock] using hall []
  induction ns with
  | nil => simp [HasBlock]
  | cons n ns ih =>
    intro before
    rw [List.foldl_cons, ih, hasBlock_joinNode]
    simp [HasBlock, or_assoc]

theorem not_hasBlock_iff : ¬HasBlock xs ↔ ∀ n ∈ xs, n.isInline = true := by
  simp [HasBlock]

theorem joined_ne_nil (h : xs ≠ []) : joined xs ≠ [] := by
  obtain ⟨front, n, rfl⟩ := (List.eq_nil_or_concat xs).resolve_left h
  have hlast (before : List Node) : joinNode n before ≠ [] := by
    cases before with
    | nil => simp [joinNode]
    | cons => rw [joinNode]; split <;> simp
  simp [joined, hlast]

/-- Inline nodes are in one paragraph. -/
theorem itemChildren_inline (h : ∀ n ∈ run, n.isInline = true) (hne : run ≠ []) :
    itemChildren run = [.new .paragraph (joined run)] := by
  have hjoined : ∀ n ∈ joined run, n.isInline = true := by
    rwa [← not_hasBlock_iff, hasBlock_joined, not_hasBlock_iff]
  rw [itemChildren, wrapRuns_inline hjoined (joined_ne_nil hne)]
  rfl

theorem itemChildren_run {front back : List Node} (hfront : ∀ b ∈ front.getLast?, b.isInline = false)
    (hrun : ∀ n ∈ run, n.isInline = true) (hne : run ≠ [])
    (hback : ∀ b ∈ back.head?, b.isInline = false) :
    itemChildren (front ++ run ++ back) =
      itemChildren front ++ .new .paragraph (joined run) :: itemChildren back := by
  have hopen : itemChildren (run ++ back) = .new .paragraph (joined run) :: itemChildren back := by
    cases back with
    | nil => simpa using itemChildren_inline hrun hne
    | cons b back =>
      have hb := hback b rfl
      have hstart := itemChildren_block hb [] back
      rw [List.nil_append] at hstart
      rw [itemChildren_block hb, itemChildren_inline hrun hne, hstart]
      rfl
  rcases List.eq_nil_or_concat front with rfl | ⟨front, b, rfl⟩
  · simpa using hopen
  · have hb := hfront b (by simp)
    have hstop := itemChildren_block hb front []
    rw [List.append_assoc, List.concat_eq_append, List.append_assoc, List.singleton_append,
      itemChildren_block hb, hstop, hopen]
    simp

end

section

variable {es as bs mid inner : List Event} {tag : Tag} {ns ms : List Node}

theorem leaves_item (h : Leaves inner ns) :
    Leaves (Markdown.span .item inner) [.new .listItem (itemChildren ns)] := by
  have hspan := @Leaves.span .item _ _ h fun _ => Span.noConfusion
  simpa [Frame.finish, Span.ofTag, itemChildren] using hspan

theorem Leaves.joined_eq (h : Leaves es ns) (h' : Leaves es ms) : joined ns = joined ms := by
  have hns := nodes?_of_leaves h
  rw [nodes?_of_leaves h'] at hns
  exact (Option.some.inj hns).symm

theorem Leaves.hasBlock_iff (h : Leaves es ns) (h' : Leaves es ms) : HasBlock ns ↔ HasBlock ms := by
  rw [← hasBlock_joined ns, h.joined_eq h', hasBlock_joined]

theorem exists_leaves_block (htag : tag.isBlock = true) (hinner : Matched inner) :
    ∃ b, Leaves (Markdown.span tag inner) [b] ∧ b.isInline = false := by
  obtain ⟨g, hg⟩ := Spanned.alters hinner
  have hspan := (hg (.new (.ofTag tag)) []).2
  have hfinish : ∃ b, (g (.new (.ofTag tag))).finish = [b] ∧ b.isInline = false := by
    rw [Frame.finish, hspan]
    cases tag <;> first | exact ⟨_, rfl, rfl⟩ | cases htag
  obtain ⟨b, hb, hblock⟩ := hfinish
  exact ⟨b, hb ▸ hg.leaves_span, hblock⟩

theorem leaves_lifted (htag : Span.ofTag tag = .lifted) (h : Leaves inner ms) :
    Leaves (Markdown.span tag inner) (joined ms) := by
  have hspan := @Leaves.span tag _ _ h (by simp [htag])
  simpa [Frame.finish, htag] using hspan

/-- A span that is neither a block nor lifted leaves an inline node. -/
theorem exists_leaves_inline (hblock : tag.isBlock = false) (hlifted : Span.ofTag tag ≠ .lifted)
    (h : Leaves inner ms) : ∃ n, Leaves (Markdown.span tag inner) [n] ∧ n.isInline = true := by
  have hcode : ∀ lang, Span.ofTag tag ≠ .code lang := by
    cases tag <;> first | exact fun _ => Span.noConfusion | cases hblock
  have hspan := h.span hcode
  cases tag <;> first | exact ⟨_, hspan, rfl⟩ | exact absurd rfl hlifted | cases hblock

theorem not_hasBlock_leaf {e : Event} (he : e.isLeaf = true) (h : Leaves [e] ns) : ¬HasBlock ns := by
  obtain ⟨ms, hms, hleaves⟩ := exists_leaves_leaf he
  rw [h.hasBlock_iff hms, not_hasBlock_iff]
  intro n hn
  obtain ⟨kind, hinline, rfl⟩ := hleaves n hn
  exact hinline

theorem LeavesBlock.hasBlock (h : LeavesBlock es) :
    Matched es ∧ ∃ ns, Leaves es ns ∧ HasBlock ns := by
  induction h with
  | block htag hinner =>
    obtain ⟨b, hb, hblock⟩ := exists_leaves_block htag hinner
    exact ⟨.one trivial hinner, _, hb, b, by simp, hblock⟩
  | lifted htag _ ih =>
    obtain ⟨hinner, ms, hms, hblock⟩ := ih
    exact ⟨.one trivial hinner, _, leaves_lifted htag hms, (hasBlock_joined ms).2 hblock⟩
  | among _ ha hb ih =>
    obtain ⟨hes, ns, hns, hblock⟩ := ih
    obtain ⟨xs, hxs⟩ := Spanned.leaves ha
    obtain ⟨ys, hys⟩ := Spanned.leaves hb
    exact ⟨(ha.append hes).append hb, _, (hxs.append hns).append hys, by
      simp [hasBlock_append, hblock]⟩

theorem leavesBlock_of_hasBlock (h : Matched es) (hns : Leaves es ns) (hblock : HasBlock ns) :
    LeavesBlock es := by
  induction h generalizing ns with
  | nil =>
    rw [hns.hasBlock_iff .nil] at hblock
    simp [HasBlock] at hblock
  | @leaf e es he hes ih =>
    obtain ⟨xs, hxs, -⟩ := exists_leaves_leaf he
    obtain ⟨ys, hys⟩ := Spanned.leaves hes
    rw [hns.hasBlock_iff (hxs.append hys), hasBlock_append] at hblock
    have hrest := ih hys (hblock.resolve_left (not_hasBlock_leaf he hxs))
    simpa using hrest.among (.leaf he .nil) .nil
  | @span tag inner es _ hinner hes ihinner ih =>
    obtain ⟨ms, hms⟩ := Spanned.leaves hinner
    obtain ⟨ys, hys⟩ := Spanned.leaves hes
    have hbehind (xs : List Node) (hxs : Leaves (Markdown.span tag inner) xs)
        (hinline : ¬HasBlock xs) : LeavesBlock (Markdown.span tag inner ++ es) := by
      rw [hns.hasBlock_iff (hxs.append hys), hasBlock_append] at hblock
      simpa using (ih hys (hblock.resolve_left hinline)).among (.one trivial hinner) .nil
    cases htag : tag.isBlock with
    | true => simpa using (LeavesBlock.block htag hinner).among .nil hes
    | false =>
      by_cases hlifted : Span.ofTag tag = .lifted
      · by_cases hinside : HasBlock ms
        · simpa using (LeavesBlock.lifted hlifted (ihinner hms hinside)).among .nil hes
        · exact hbehind _ (leaves_lifted hlifted hms) (by rwa [hasBlock_joined])
      · obtain ⟨n, hn, hinline⟩ := exists_leaves_inline htag hlifted hms
        exact hbehind _ hn (by simp [HasBlock, hinline])

theorem leavesBlock_iff (h : Matched es) (hns : Leaves es ns) : LeavesBlock es ↔ HasBlock ns := by
  refine ⟨fun hes => ?_, leavesBlock_of_hasBlock h hns⟩
  obtain ⟨-, ms, hms, hblock⟩ := LeavesBlock.hasBlock hes
  exact (hns.hasBlock_iff hms).2 hblock

theorem leaves_nil_of_leavesNothing (h : Matched es) (hnothing : ∀ e ∈ es, e.leavesNothing = true) :
    Leaves es [] := by
  induction h with
  | nil => exact .nil
  | @leaf e es he _ ih =>
    obtain ⟨hhead, htail⟩ := List.forall_mem_cons.1 hnothing
    have hfirst : Leaves [e] [] := by
      cases e with
      | html | rule => exact fun _ _ _ => rfl
      | start | stop => cases he
      | _ => cases hhead
    exact hfirst.append (ih htail)
  | @span tag inner es _ _ _ ihinner ih =>
    obtain ⟨hspan, htail⟩ := List.forall_mem_append.1 hnothing
    obtain ⟨hhead, hinside⟩ := List.forall_mem_cons.1 hspan
    have hlifted : Span.ofTag tag = .lifted := by simpa [EventOf.leavesNothing] using hhead
    have hinner := ihinner fun e he => hinside e (List.mem_append_left _ he)
    exact (leaves_lifted hlifted hinner).append (ih htail)

end

/-- What stands in an item before some events, and what stands behind them. If the events leave a block,
the children of the item before it are made of what stands before it, and those behind it of what
stands behind it. If they leave none, they leave inline nodes only, and these are in one paragraph with
the inline nodes beside them. Rules and raw HTML leave nothing at all. -/
theorem item_runs {as mid bs : List Event} (ha : Matched as) (hm : Matched mid) (hb : Matched bs) :
    ∃ xs ms ys, nodes? as = some xs ∧ nodes? mid = some ms ∧ nodes? bs = some ys ∧
      Leaves (Markdown.span .item (as ++ mid ++ bs)) [.new .listItem (itemChildren (xs ++ ms ++ ys))] ∧
      (LeavesBlock mid → ∃ front b back, ms = front ++ b :: back ∧ b.isInline = false ∧
        itemChildren (xs ++ ms ++ ys) = itemChildren (xs ++ front) ++ b :: itemChildren (back ++ ys)) ∧
      (¬LeavesBlock mid → ∀ front run run' back, xs = front ++ run → ys = run' ++ back →
        (∀ n ∈ run ++ run', n.isInline = true) → (∀ b ∈ front.getLast?, b.isInline = false) →
        (∀ b ∈ back.head?, b.isInline = false) → run ++ ms ++ run' ≠ [] →
        itemChildren (xs ++ ms ++ ys) =
          itemChildren front ++ .new .paragraph (joined (run ++ ms ++ run')) :: itemChildren back) ∧
      ((∀ e ∈ mid, e.leavesNothing = true) → ms = []) := by
  have hleaves {es : List Event} (h : Matched es) : ∃ ns, nodes? es = some ns ∧ Leaves es ns := by
    obtain ⟨ns, hns⟩ := Spanned.leaves h
    exact ⟨_, nodes?_of_leaves hns, Spanned.leaves_of_nodes? h (nodes?_of_leaves hns)⟩
  obtain ⟨xs, hxs, hleavesXs⟩ := hleaves ha
  obtain ⟨ms, hms, hleavesMs⟩ := hleaves hm
  obtain ⟨ys, hys, hleavesYs⟩ := hleaves hb
  refine ⟨xs, ms, ys, hxs, hms, hys, leaves_item ((hleavesXs.append hleavesMs).append hleavesYs),
    fun hblock => ?_, fun hnone front run run' back hxs hys hrun hfront hback hne => ?_,
    fun hnothing => ?_⟩
  · obtain ⟨b, hmem, hinline⟩ := (leavesBlock_iff hm hleavesMs).1 hblock
    obtain ⟨front, back, rfl⟩ := List.append_of_mem hmem
    refine ⟨front, b, back, rfl, hinline, ?_⟩
    have hsplit := itemChildren_block hinline (xs ++ front) (back ++ ys)
    simpa using hsplit
  · rw [leavesBlock_iff hm hleavesMs, not_hasBlock_iff] at hnone
    have hall : ∀ n ∈ run ++ ms ++ run', n.isInline = true := by
      intro n hn
      rcases List.mem_append.1 hn with hn | hn
      · rcases List.mem_append.1 hn with hn | hn
        · exact hrun n (List.mem_append_left _ hn)
        · exact hnone n hn
      · exact hrun n (List.mem_append_right _ hn)
    have hparagraph := itemChildren_run hfront hall hne hback
    rw [hxs, hys]
    simpa using hparagraph
  · have hnil := nodes?_of_leaves (leaves_nil_of_leavesNothing hm hnothing)
    exact Option.some.inj (hms.symm.trans hnil)

theorem item_runs_quotation :
    (∃ front b back, [Node.new .paragraph [.leaf (.text "c")]] = front ++ b :: back ∧
      b.isInline = false ∧
      Leaves (Markdown.span .item ([.text "a"] ++
          Markdown.span .quote ([.rule] ++ Markdown.span .paragraph [.text "c"] ++ []) ++ [.text "b"]))
        [.new .listItem (itemChildren ([.leaf (.text "a")] ++ front) ++
          b :: itemChildren (back ++ [.leaf (.text "b")]))]) ∧
      Leaves (Markdown.span .item ([.text "a"] ++ (.rule :: Markdown.span .htmlBlock [.html]) ++
          [.text "b"]))
        [.new .listItem (itemChildren [.leaf (.text "a"), .leaf (.text "b")])] := by
  have htext (value : String) : Matched [.text value] := .leaf rfl .nil
  have hparagraph : Matched (Markdown.span .paragraph [.text "c"]) := .one trivial (htext "c")
  have hquoted : LeavesBlock ([.rule] ++ Markdown.span .paragraph [.text "c"] ++ []) :=
    .among (.block rfl (htext "c")) (.leaf rfl .nil) .nil
  have hquote : Matched (Markdown.span .quote ([.rule] ++ Markdown.span .paragraph [.text "c"] ++ [])) :=
    .one trivial (.leaf rfl (hparagraph.append .nil))
  have hhtml : Matched (.rule :: Markdown.span .htmlBlock [.html]) :=
    .leaf rfl (.one trivial (.leaf rfl .nil))
  refine ⟨?_, ?_⟩
  · obtain ⟨xs, ms, ys, hxs, hms, hys, hitem, hblock, -⟩ := item_runs (htext "a") hquote (htext "b")
    cases hxs
    cases hms
    cases hys
    obtain ⟨front, b, back, hsplit, hb, hchildren⟩ := hblock (.lifted rfl hquoted)
    rw [hchildren] at hitem
    exact ⟨front, b, back, hsplit, hb, hitem⟩
  · obtain ⟨xs, ms, ys, hxs, hms, hys, hitem, -, -, hnothing⟩ :=
      item_runs (htext "a") hhtml (htext "b")
    cases hxs
    cases hys
    rw [hnothing (by decide)] at hitem
    exact hitem

/-- Two blocks of this item are made one word. -/
theorem rule_runsTogether :
    Markdown.events "- a\n  ***\n  b" =
        Markdown.span (.list none) (Markdown.span .item ([.text "a"] ++ [.rule] ++ [.text "b"])) ∧
      (Document.ofMarkdown "- a\n  ***\n  b").nodes.map Node.kind =
        [.document, .list none, .listItem, .paragraph, .text "ab"] := by
  constructor
  · decide +kernel
  · decide +kernel

end Folio
