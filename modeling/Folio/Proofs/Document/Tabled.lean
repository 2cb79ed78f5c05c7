import Folio.Proofs.Document.Literal
/-!
The tables of a tree. Each is a table among the events of the text, with its source and as many cells in
each row (`tabled_ofMarkdown`).
-/
set_option autoImplicit false

namespace Folio

open Markdown (Event EventOf Extent Level Nested Parser Spanned Tag TagOf)
open Node (preorderAll numberAll)

def Node.widths (n : Node) : List Nat := n.children.map (·.children.length)

/-- `P` holds of the source and the widths of each table among these nodes and below them. -/
def Tabled (P : String → List Nat → Prop) (ns : List Node) : Prop :=
  ∀ n ∈ preorderAll ns, ∀ source, n.kind = .table source → P source n.widths

section

variable {P : String → List Nat → Prop} {n : Node} {ns ms : List Node} {es inner : List Event} {tag : Tag}

theorem Tabled.nil : Tabled P [] := by simp [Tabled, preorderAll]

theorem tabled_cons : Tabled P (n :: ns) ↔
    (∀ source, n.kind = .table source → P source n.widths) ∧ Tabled P n.children ∧ Tabled P ns := by
  obtain ⟨id, kind, children⟩ := n
  simp only [Tabled, preorderAll, Node.preorder, List.forall_mem_append, List.forall_mem_cons, and_assoc]
  rfl

theorem tabled_append : Tabled P (ns ++ ms) ↔ Tabled P ns ∧ Tabled P ms := by
  simp only [Tabled, Node.preorderAll_append, List.forall_mem_append]

theorem tabled_reverse : Tabled P ns.reverse ↔ Tabled P ns := by
  simp only [Tabled, Node.mem_preorderAll_reverse]

theorem Tabled.node {id : Nat} {kind : Kind} (hkind : ∀ source, kind ≠ .table source) (h : Tabled P ms)
    (hns : Tabled P ns) : Tabled P (.mk id kind ms :: ns) :=
  tabled_cons.2 ⟨fun source hsource => absurd hsource (hkind source), h, hns⟩

theorem Tabled.joinNode (hn : Tabled P [n]) (h : Tabled P ns) : Tabled P (joinNode n ns) := by
  cases ns with
  | nil => exact hn
  | cons top rest =>
    rw [Folio.joinNode]
    split
    · obtain ⟨-, htop, hrest⟩ := tabled_cons.1 h
      exact .node (fun _ => Kind.noConfusion) htop hrest
    · obtain ⟨hself, hbelow, -⟩ := tabled_cons.1 hn
      exact tabled_cons.2 ⟨hself, hbelow, h⟩

theorem Tabled.joined (h : Tabled P ns) : Tabled P (joined ns) := by
  suffices hall : ∀ before, Tabled P before →
      Tabled P (ns.foldl (fun before n => Folio.joinNode n before) before) from
    tabled_reverse.2 (hall [] .nil)
  induction ns with
  | nil => exact fun _ hbefore => hbefore
  | cons n ns ih =>
    intro before hbefore
    obtain ⟨hself, hbelow, hns⟩ := tabled_cons.1 h
    exact ih hns _ (.joinNode (tabled_cons.2 ⟨hself, hbelow, .nil⟩) hbefore)

theorem Tabled.wrapRuns {run : List Node} (hrun : Tabled P run) (h : Tabled P ns) :
    Tabled P (wrapRuns run ns) := by
  fun_induction Folio.wrapRuns run ns with
  | case1 => exact .nil
  | case2 run => exact .node (fun _ => Kind.noConfusion) (tabled_reverse.2 hrun) .nil
  | case3 run n ns hinline ih =>
    obtain ⟨hself, hbelow, hns⟩ := tabled_cons.1 h
    exact ih (tabled_cons.2 ⟨hself, hbelow, hrun⟩) hns
  | case4 run n ns hinline hempty ih =>
    obtain ⟨hself, hbelow, hns⟩ := tabled_cons.1 h
    exact tabled_cons.2 ⟨hself, hbelow, ih .nil hns⟩
  | case5 run n ns hinline hempty ih =>
    obtain ⟨hself, hbelow, hns⟩ := tabled_cons.1 h
    exact .node (fun _ => Kind.noConfusion) (tabled_reverse.2 hrun)
      (tabled_cons.2 ⟨hself, hbelow, ih .nil hns⟩)

def MakesTable (P : String → List Nat → Prop) (tag : Tag) (inner : List Event) : Prop :=
  ∀ source, tag = .table source →
    ∃ ns, Leaves inner ns ∧ P source ((joined ns).map (·.children.length))

theorem Tabled.leaf {kind : Kind} (hkind : ∀ source, kind ≠ .table source) : Tabled P [.leaf kind] :=
  .node hkind .nil .nil

theorem Tabled.finish {children : List Node} (htable : ∀ source, tag = .table source →
    P source (children.map (·.children.length))) (h : Tabled P children) :
    Tabled P (Frame.mk (.ofTag tag) children.reverse "").finish := by
  rw [Frame.finish]
  split
  · exact .node (fun _ => Kind.noConfusion) (.wrapRuns .nil (tabled_reverse.2 (tabled_reverse.2 h))) .nil
  · rename_i kind _ htag
    rw [List.reverse_reverse]
    refine tabled_cons.2 ⟨fun source hsource => htable source ?_, h, .nil⟩
    obtain rfl : kind = .table source := hsource
    cases tag <;> cases htag
    rfl
  · exact tabled_reverse.2 (tabled_reverse.2 h)
  · exact .leaf fun _ => Kind.noConfusion
  · exact .leaf fun _ => Kind.noConfusion

theorem tabled_leaves (h : ∀ n ∈ ns, ∃ kind : Kind, kind.isInline = true ∧ n = .leaf kind) :
    Tabled P ns := by
  intro m hm source hsource
  obtain ⟨n, hn, hm⟩ := Node.mem_preorderAll.1 hm
  obtain ⟨kind, hinline, rfl⟩ := h n hn
  obtain rfl : m = .leaf kind := List.mem_singleton.1 hm
  obtain rfl : kind = .table source := hsource
  cases hinline

theorem joined_unique (h : Leaves es ns) (h' : Leaves es ms) : joined ns = joined ms :=
  Option.some.inj ((nodes?_of_leaves h).symm.trans (nodes?_of_leaves h'))

theorem tabled_of_spanned (h : Spanned (MakesTable P) es) : ∃ ns, Leaves es ns ∧ Tabled P ns := by
  induction h with
  | nil => exact ⟨[], .nil, .nil⟩
  | leaf he _ ih =>
    obtain ⟨ns, hns, hleaves⟩ := exists_leaves_leaf he
    obtain ⟨ms, hms, htabled⟩ := ih
    exact ⟨_, hns.append hms, tabled_append.2 ⟨tabled_leaves hleaves, htabled⟩⟩
  | @span tag inner es hmakes hinner _ ihinner ih =>
    obtain ⟨ms, hms, htabled'⟩ := ih
    suffices hspan : ∃ ns, Leaves (Markdown.span tag inner) ns ∧ Tabled P ns by
      obtain ⟨ns, hns, htabled⟩ := hspan
      exact ⟨_, hns.append hms, tabled_append.2 ⟨htabled, htabled'⟩⟩
    by_cases hcode : ∃ lang, Span.ofTag tag = .code lang
    · obtain ⟨lang, htag⟩ := hcode
      obtain ⟨g, hg⟩ := Spanned.alters hinner
      have hspan : (g (.new (.ofTag tag))).span = .code lang := (hg _ []).2.trans htag
      refine ⟨_, hg.leaves_span, ?_⟩
      rw [Frame.finish, hspan]
      exact .leaf fun _ => Kind.noConfusion
    · rw [not_exists] at hcode
      obtain ⟨ns, hns, htabled⟩ := ihinner
      refine ⟨_, hns.span hcode, .finish (fun source htag => ?_) htabled.joined⟩
      obtain ⟨ns', hns', htable⟩ := hmakes source htag
      rwa [joined_unique hns hns']

theorem joined_of_ne (h : ∀ n ∈ ns, ∀ value, n.kind ≠ .text value) : joined ns = ns := by
  suffices hall : ∀ before, ns.foldl (fun before n => joinNode n before) before = ns.reverse ++ before by
    rw [joined, hall, List.append_nil, List.reverse_reverse]
  induction ns with
  | nil => exact fun _ => rfl
  | cons n ns ih =>
    intro before
    obtain ⟨hn, hns⟩ := List.forall_mem_cons.1 h
    rw [List.foldl_cons, joinNode_of_ne hn, ih hns]
    simp

theorem leaves_node {kind : Kind} (htag : Span.ofTag tag = .node kind) (hitem : kind ≠ .listItem)
    (h : Leaves inner ns) : Leaves (Markdown.span tag inner) [.new kind (joined ns)] := by
  have hcode (lang : Option String) : Span.ofTag tag ≠ .code lang := by simp [htag]
  have hspan := h.span hcode
  rw [htag] at hspan
  have hfinish : (Frame.mk (.node kind) (joined ns).reverse "").finish = [.new kind (joined ns)] := by
    rw [Frame.finish]
    split
    · rename_i heq
      exact absurd (Span.node.inj heq) hitem
    · rename_i heq
      rw [Span.node.inj heq, List.reverse_reverse]
    all_goals
      rename_i heq
      cases heq
  rwa [hfinish] at hspan

end

/-- A row starts, or one more cell of the last row that has started. Events are counted from the last one
on. -/
def countRow {α : Type} (e : EventOf α) (counted : Nat × List Nat) : Nat × List Nat :=
  match e with
  | .start .tableCell => (counted.1 + 1, counted.2)
  | .start .tableHead | .start .tableRow => (0, counted.1 :: counted.2)
  | _ => counted

/-- How many cells each row has among the events of a table. -/
def rowWidths {α : Type} (es : List (EventOf α)) : List Nat := (es.foldr countRow (0, [])).2

theorem rowWidths_map {α β : Type} (f : α → β) (es : List (EventOf α)) :
    rowWidths (es.map (EventOf.map f)) = rowWidths es := by
  have hcount (e : EventOf α) : countRow (e.map f) = countRow e := by
    funext counted
    cases e with
    | start tag => cases tag <;> rfl
    | _ => rfl
  simp only [rowWidths, List.foldr_map, hcount]

section

variable {es inner : List Event} {ns : List Node}

theorem countRow_inline (h : Nested .inline es) (counted : Nat × List Nat) :
    es.foldr countRow counted = counted := by
  have hinline := isInline_of_nested h rfl
  clear h
  induction es with
  | nil => rfl
  | cons e es ih =>
    obtain ⟨he, hes⟩ := List.forall_mem_cons.1 hinline
    rw [List.foldr_cons, ih hes]
    cases e with
    | start tag => cases tag <;> first | rfl | cases he
    | _ => rfl

theorem countRow_span (tag : Tag) (inner es : List Event) (counted : Nat × List Nat) :
    (Markdown.span tag inner ++ es).foldr countRow counted =
      countRow (.start tag) (inner.foldr countRow (es.foldr countRow counted)) := by
  simp [Markdown.span, countRow]

theorem joined_of_kind {kind : Kind} (hkind : ∀ value, kind ≠ .text value)
    (h : ∀ n ∈ ns, n.kind = kind) : joined ns = ns :=
  joined_of_ne fun n hn value => h n hn ▸ hkind value

theorem leaves_cells {l : Level} (h : Nested l es) (hl : l = .cells) :
    ∃ ns, Leaves es ns ∧ (∀ n ∈ ns, n.kind = .tableCell) ∧
      ∀ counted, es.foldr countRow counted = (counted.1 + ns.length, counted.2) := by
  induction h with
  | nil => exact ⟨[], .nil, List.forall_mem_nil _, fun _ => rfl⟩
  | @leaf _ e _ he htakes =>
    subst hl
    cases e with
    | start | stop => cases he
    | _ => cases htakes
  | @span l tag inner es htakes hinner _ _ ih =>
    subst hl
    obtain ⟨ns, hns, hcells, hcount⟩ := ih rfl
    cases tag with
    | tableCell =>
      obtain ⟨ms, hms, -⟩ := leaves_of_nested hinner
      refine ⟨_ :: ns, (leaves_node rfl (by decide) hms).append hns,
        List.forall_mem_cons.2 ⟨rfl, hcells⟩, fun counted => ?_⟩
      rw [countRow_span, countRow_inline hinner, hcount]
      simp only [countRow, List.length_cons]
      rw [Nat.add_assoc]
    | _ => cases htakes

theorem leaves_rows {l : Level} (h : Nested l es) (hl : l = .rows) :
    ∃ ns, Leaves es ns ∧ (∀ n ∈ ns, n.kind = .tableRow) ∧
      ∀ widths, es.foldr countRow (0, widths) = (0, ns.map (·.children.length) ++ widths) := by
  induction h with
  | nil => exact ⟨[], .nil, List.forall_mem_nil _, fun _ => rfl⟩
  | @leaf _ e _ he htakes =>
    subst hl
    cases e with
    | start | stop => cases he
    | _ => cases htakes
  | @span l tag inner es htakes hinner _ _ ih =>
    subst hl
    obtain ⟨ns, hns, hrows, hcount⟩ := ih rfl
    cases tag with
    | tableHead | tableRow =>
      obtain ⟨cells, hcells, hkinds, hcounted⟩ := leaves_cells hinner rfl
      refine ⟨_ :: ns, (leaves_node rfl (by decide) hcells).append hns,
        List.forall_mem_cons.2 ⟨rfl, hrows⟩, fun widths => ?_⟩
      rw [countRow_span, hcount, hcounted, joined_of_kind (fun _ => Kind.noConfusion) hkinds]
      simp [countRow, Node.new]
    | _ => cases htakes

/-- The rows of a table leave nodes with as many children as they have cells. -/
theorem leaves_table (h : Nested .rows es) :
    ∃ ns, Leaves es ns ∧ (joined ns).map (·.children.length) = rowWidths es := by
  obtain ⟨ns, hns, hrows, hcount⟩ := leaves_rows h rfl
  refine ⟨ns, hns, ?_⟩
  rw [joined_of_kind (fun _ => Kind.noConfusion) hrows, rowWidths, hcount []]
  simp

end

theorem widths_numberAll (next : Nat) (ns : List Node) :
    (numberAll next ns).1.map (·.children.length) = ns.map (·.children.length) := by
  induction ns generalizing next with
  | nil => rfl
  | cons n ns ih =>
    obtain ⟨id, kind, children⟩ := n
    simp [numberAll, Node.number, ih, Node.length_numberAll]

theorem ignoresIds_tabled (P : String → List Nat → Prop) :
    Node.IgnoresIds fun n => ∀ source, n.kind = .table source → P source n.widths := by
  intro id next kind children h source hsource
  rw [Node.widths, Node.children_mk, widths_numberAll]
  exact h source hsource

theorem tabled_nodes {P : String → List Nat → Prop} {ns : List Node} {n : Node}
    (h : Tabled P ns) (hn : n ∈ (Document.ofNodes ns).nodes) {source : String}
    (hkind : n.kind = .table source) : P source n.widths := by
  rw [Document.nodes, Node.descendants_eq_preorder, Document.ofNodes, Node.new, Node.number,
    Node.preorder] at hn
  rcases List.mem_cons.1 hn with rfl | hn
  · cases hkind
  · exact (ignoresIds_tabled P).numberAll 1 ns h n hn source hkind

section

variable [Markdown.Parser]

/-- A table among the events of a text. -/
def TableAt (markdown : String) (r : Extent) (inner : List (EventOf Extent)) : Prop :=
  Nested .rows inner ∧ Markdown.span (.table r) inner <:+: Parser.events markdown

/-- The text is a table with so many cells in each row, and nothing else. -/
def OnlyTable (text : String) (widths : List Nat) : Prop :=
  ∃ r inner, Nested .rows inner ∧ Parser.events text = Markdown.span (.table r) inner ∧
    rowWidths inner = widths

theorem spanned_of_nested {markdown : String} {l : Level} {es : List (EventOf Extent)}
    (h : Nested l es) (hin : es <:+: Parser.events markdown) :
    Spanned (MakesTable fun source widths => ∃ r inner, TableAt markdown r inner ∧
      source = Markdown.sourceAt markdown r ∧ widths = rowWidths inner)
      (es.map (EventOf.map (Markdown.sourceAt markdown))) := by
  induction h with
  | nil => exact .nil
  | leaf he _ _ ih =>
    exact .leaf ((EventOf.isLeaf_map _ _).trans he) (ih ((List.suffix_cons _ _).isInfix.trans hin))
  | @span l tag inner es _ hinner _ ihinner ih =>
    have hspan : Markdown.span tag inner <:+: Parser.events markdown :=
      (List.prefix_append _ _).isInfix.trans hin
    have hinside : inner <:+: Markdown.span tag inner := ⟨[.start tag], [.stop], by simp [Markdown.span]⟩
    rw [List.map_append, Markdown.map_span]
    refine .span (fun source hsource => ?_) (ihinner (hinside.trans hspan))
      (ih ((List.suffix_append _ _).isInfix.trans hin))
    cases tag with
    | table r =>
      obtain ⟨ns, hns, hwidths⟩ := leaves_table (hinner.map (Markdown.sourceAt markdown))
      refine ⟨ns, hns, r, inner, ⟨hinner, hspan⟩, (TagOf.table.inj hsource).symm, ?_⟩
      rw [hwidths, rowWidths_map]
    | _ => cases hsource

/-- Each table of a tree is one among the events of the text. -/
theorem tabled_ofMarkdown {markdown : String} {n : Node} (hn : n ∈ (Document.ofMarkdown markdown).nodes)
    {source : String} (hkind : n.kind = .table source) :
    ∃ r inner, TableAt markdown r inner ∧ source = Markdown.sourceAt markdown r ∧
      n.widths = rowWidths inner := by
  obtain ⟨ns, hns, htabled⟩ := tabled_of_spanned
    (spanned_of_nested (Parser.nested markdown) (List.infix_rfl))
  rw [Document.nodes, Document.ofMarkdown_root hns, ← Document.nodes] at hn
  exact tabled_nodes htabled.joined hn hkind

theorem ofMarkdown_onlyTable {source : String} {widths : List Nat} (h : OnlyTable source widths) :
    ∃ t, (Document.ofMarkdown source).root.children = [t] ∧ t.kind.isTable = true ∧
      t.widths = widths := by
  obtain ⟨r, inner, hinner, hevents, rfl⟩ := h
  obtain ⟨ns, hns, hwidths⟩ := leaves_table (hinner.map (Markdown.sourceAt source))
  have hleaves : Leaves (Markdown.events source)
      [.new (.table (Markdown.sourceAt source r)) (joined ns)] := by
    rw [Markdown.events, hevents, Markdown.map_span]
    exact leaves_node rfl (fun h => nomatch h) hns
  refine ⟨((Node.new (.table (Markdown.sourceAt source r)) (joined ns)).number 1).1, ?_, rfl, ?_⟩
  · rw [Document.ofMarkdown_root hleaves, joined_of_ne (by simp [Node.new])]
    rfl
  · rw [← rowWidths_map (Markdown.sourceAt source), ← hwidths]
    exact widths_numberAll _ _

end

end Folio
