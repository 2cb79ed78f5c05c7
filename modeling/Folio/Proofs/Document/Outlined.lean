import Folio.Proofs.Document.Leaving
import Folio.Proofs.Document.Numbering
import Folio.Proofs.Document.Shaped
/-!
The tree that is read from a text keeps the nesting of its blocks: a list holds items, an item holds
blocks, and all other blocks hold rows, cells and inline nodes or nothing (`outlined_ofMarkdown`). Inline
nodes that stand in an item get a paragraph when the item is complete.
-/
set_option autoImplicit false

namespace Folio

open Markdown (Event Tag TagOf Level Nested)
open Node (preorderAll numberAll)

/-- What an item may hold. -/
def Kind.isBlock : Kind → Bool
  | .heading _ | .paragraph | .list _ | .code .. | .table _ => true
  | _ => false

/-- Lists hold items, items hold blocks, leaves nothing, and below other blocks there are no more
blocks. -/
def Node.isOutlined (n : Node) : Bool :=
  match n.kind with
  | .document => n.children.all fun c => c.kind.isBlock || c.kind.isInline
  | .list _ => n.children.all (·.kind == .listItem)
  | .listItem => n.children.all (·.kind.isBlock)
  | .text _ | .inlineCode _ | .image .. | .code .. => n.children.isEmpty
  | _ => n.children.all (·.kind.isTablePart)

def Outlined (ns : List Node) : Prop := ∀ n ∈ ns, n.isOutlined = true

theorem Outlined.append {ns ms : List Node} :
    Outlined (ns ++ ms) ↔ Outlined ns ∧ Outlined ms := List.forall_mem_append

theorem Outlined.cons {n : Node} {ns : List Node} :
    Outlined (n :: ns) ↔ n.isOutlined = true ∧ Outlined ns := List.forall_mem_cons

theorem outlined_preorderAll {ns : List Node} :
    Outlined (preorderAll ns) ↔ ∀ n ∈ ns, Outlined n.preorder := by
  simp only [Outlined, Node.mem_preorderAll]
  exact ⟨fun h n hn m hm => h m ⟨n, hn, hm⟩, fun h m ⟨n, hn, hm⟩ => h n hn m hm⟩

mutual

/-- What is below a node of a tree is below the tree. -/
theorem preorder_subset {m : Node} : (n : Node) → m ∈ n.preorder → m.preorder ⊆ n.preorder
  | .mk id kind children, h => by
    rw [Node.preorder] at h ⊢
    rcases List.mem_cons.1 h with rfl | h
    · rw [Node.preorder]
      exact List.Subset.refl _
    · exact List.subset_cons_of_subset _ (preorderAll_subset children h)

theorem preorderAll_subset {m : Node} : (ns : List Node) → m ∈ preorderAll ns →
    m.preorder ⊆ preorderAll ns
  | [], h => nomatch h
  | n :: ns, h => by
    rw [preorderAll] at h ⊢
    rcases List.mem_append.1 h with h | h
    · exact List.subset_append_of_subset_left _ (preorder_subset n h)
    · exact List.subset_append_of_subset_right _ (preorderAll_subset ns h)

end

theorem Outlined.below {d : Document} (h : Outlined d.nodes) {n : Node} (hn : n ∈ d.nodes) :
    Outlined n.preorder := by
  rw [Document.nodes, Node.descendants_eq_preorder] at h hn
  exact fun m hm => h m (preorder_subset d.root hn hm)

def Kind.holdsParts : Kind → Bool
  | .heading _ | .paragraph | .table _ | .tableRow | .tableCell | .strong | .emphasis | .link _ => true
  | _ => false

mutual

/-- Below rows, cells and inline nodes there is nothing else. -/
theorem parts_preorder : (n : Node) → n.kind.isTablePart = true → Outlined n.preorder →
    ∀ m ∈ n.preorder, m.kind.isTablePart = true
  | .mk id kind children, hpart, h => by
    rw [Node.preorder, Outlined.cons] at h
    have hchildren : ∀ c ∈ children, c.kind.isTablePart = true := by
      rw [← List.all_eq_true]
      cases kind with
      | document | heading | paragraph | list | listItem | code | table => cases hpart
      | text | inlineCode | image =>
        obtain rfl : children = [] := List.isEmpty_iff.1 h.1
        rfl
      | _ => exact h.1
    rw [Node.preorder]
    exact List.forall_mem_cons.2 ⟨hpart, parts_preorderAll children hchildren h.2⟩

theorem parts_preorderAll : (ns : List Node) → (∀ n ∈ ns, n.kind.isTablePart = true) →
    Outlined (preorderAll ns) → ∀ m ∈ preorderAll ns, m.kind.isTablePart = true
  | [], _, _ => by simp [preorderAll]
  | n :: ns, hparts, h => by
    rw [preorderAll, Outlined.append] at h
    obtain ⟨hpart, hothers⟩ := List.forall_mem_cons.1 hparts
    rw [preorderAll]
    exact List.forall_mem_append.2
      ⟨parts_preorder n hpart h.1, parts_preorderAll ns hothers h.2⟩

end

theorem all_kind_numberAll (p : Kind → Bool) (next : Nat) (ns : List Node) :
    (numberAll next ns).1.all (p ·.kind) = ns.all (p ·.kind) := by
  have hkinds := congrArg (List.all · p) (Node.kinds_numberAll next ns)
  rwa [List.all_map, List.all_map] at hkinds

theorem isOutlined_number (next id : Nat) (kind : Kind) (children : List Node) :
    (Node.mk next kind (numberAll (next + 1) children).1).isOutlined =
      (Node.mk id kind children).isOutlined := by
  cases kind with
  | list start => exact all_kind_numberAll (· == .listItem) _ _
  | listItem => exact all_kind_numberAll Kind.isBlock _ _
  | document => exact all_kind_numberAll (fun kind => kind.isBlock || kind.isInline) _ _
  | text | inlineCode | image | code => cases children <;> rfl
  | _ => exact all_kind_numberAll Kind.isTablePart _ _

theorem ignoresIds_isOutlined : Node.IgnoresIds (·.isOutlined = true) :=
  fun id next kind children h => (isOutlined_number next id kind children).trans h

/-- Whether events of a level may leave nodes of this kind. -/
def Kind.standsAt (kind : Kind) : Level → Bool
  | .items => kind == .listItem
  | .flow => kind.isBlock || kind.isInline
  | .rows => kind == .tableRow
  | .cells => kind == .tableCell
  | .inline | .texts => kind.isInline

def Node.Fits (l : Level) (n : Node) : Prop := n.kind.standsAt l = true ∧ Outlined n.preorder

theorem standsAt_of_isInline {l : Level} {e : Event} (he : e.isLeaf = true) (htakes : l.takes e = true)
    {kind : Kind} (hkind : kind.isInline = true) : kind.standsAt l = true := by
  cases l with
  | items | rows | cells =>
    cases e with
    | start | stop => cases he
    | _ => cases htakes
  | flow => simp [Kind.standsAt, hkind]
  | inline | texts => exact hkind

section

variable {l : Level} {n : Node} {ns : List Node} {kind : Kind} {children : List Node}

theorem Node.fits_new (hkind : kind.standsAt l = true)
    (hself : (Node.new kind children).isOutlined = true)
    (hchildren : ∀ c ∈ children, Outlined c.preorder) : (Node.new kind children).Fits l := by
  refine ⟨hkind, ?_⟩
  rw [Node.new, Node.preorder, Outlined.cons]
  exact ⟨hself, outlined_preorderAll.2 hchildren⟩

theorem Node.fits_leaf (hkind : kind.standsAt l = true) : (Node.leaf kind).Fits l :=
  Node.fits_new hkind (by cases kind <;> rfl) (by simp)

theorem Node.Fits.isTablePart (h : n.Fits l) (hl : l = .rows ∨ l = .cells ∨ l = .inline) :
    n.kind.isTablePart = true := by
  obtain ⟨hkind, -⟩ := h
  rcases hl with rfl | rfl | rfl
  · obtain hrow : n.kind = .tableRow := by simpa [Kind.standsAt] using hkind
    rw [hrow]
    rfl
  · obtain hcell : n.kind = .tableCell := by simpa [Kind.standsAt] using hkind
    rw [hcell]
    rfl
  · change n.kind.isInline = true at hkind
    cases h : n.kind <;> rw [h] at hkind <;> first | rfl | cases hkind

theorem fits_joinNode (hn : n.Fits l) (h : ∀ m ∈ ns, m.Fits l) : ∀ m ∈ joinNode n ns, m.Fits l := by
  cases ns with
  | nil => simpa [joinNode] using hn
  | cons top rest =>
    obtain ⟨htop, hrest⟩ := List.forall_mem_cons.1 h
    rw [joinNode]
    split
    · rename_i before value hbefore hvalue
      refine List.forall_mem_cons.2 ⟨⟨?_, ?_⟩, hrest⟩
      · have hkind := hn.1
        rw [hvalue] at hkind
        cases l with
        | items | rows | cells => cases hkind
        | _ => rfl
      · obtain ⟨id, kind, cs⟩ := top
        have hbelow := htop.2
        obtain rfl : kind = .text before := hbefore
        rw [Node.preorder, Outlined.cons] at hbelow ⊢
        exact ⟨hbelow.1, hbelow.2⟩
    · exact List.forall_mem_cons.2 ⟨hn, h⟩

theorem fits_joined (h : ∀ n ∈ ns, n.Fits l) : ∀ n ∈ joined ns, n.Fits l := by
  suffices hall : ∀ before : List Node, (∀ m ∈ before, m.Fits l) →
      ∀ m ∈ ns.foldl (fun before n => joinNode n before) before, m.Fits l from
    fun n hn => hall [] (List.forall_mem_nil _) n (List.mem_reverse.1 hn)
  induction ns with
  | nil => exact fun _ hbefore => hbefore
  | cons n ns ih =>
    intro before hbefore
    obtain ⟨hn, hns⟩ := List.forall_mem_cons.1 h
    exact ih hns _ (fits_joinNode hn hbefore)

theorem Node.Fits.isBlock (h : n.Fits .flow) (hinline : ¬n.isInline = true) :
    n.kind.isBlock = true := by
  have hkind : n.kind.isBlock = true ∨ n.kind.isInline = true := by
    simpa [Kind.standsAt] using h.1
  exact hkind.resolve_right hinline

theorem Node.fits_holder {inner : Level} (hkind : kind.standsAt l = true)
    (hparts : kind.holdsParts = true) (hinner : inner = .rows ∨ inner = .cells ∨ inner = .inline)
    (h : ∀ c ∈ children, c.Fits inner) : (Node.new kind children).Fits l := by
  refine Node.fits_new hkind ?_ fun c hc => (h c hc).2
  have hall : children.all (·.kind.isTablePart) = true :=
    List.all_eq_true.2 fun c hc => (h c hc).isTablePart hinner
  cases kind with
  | document | list | listItem | text | inlineCode | image | code => cases hparts
  | _ => exact hall

/-- The inline nodes of an item are in paragraphs. -/
theorem wrapRuns_blocks {run : List Node} (hrun : ∀ n ∈ run, n.Fits .inline)
    (hns : ∀ n ∈ ns, n.Fits .flow) :
    ∀ n ∈ wrapRuns run ns, n.kind.isBlock = true ∧ Outlined n.preorder := by
  have hparagraph {run : List Node} (hrun : ∀ n ∈ run, n.Fits .inline) :
      Outlined (Node.new .paragraph run.reverse).preorder :=
    (Node.fits_holder (l := .flow) rfl rfl (.inr (.inr rfl))
      fun n hn => hrun n (List.mem_reverse.1 hn)).2
  fun_induction wrapRuns run ns with
  | case1 => simp
  | case2 run => simpa using ⟨rfl, hparagraph hrun⟩
  | case3 run n ns hinline ih =>
    obtain ⟨hn, hns⟩ := List.forall_mem_cons.1 hns
    exact ih (List.forall_mem_cons.2 ⟨⟨hinline, hn.2⟩, hrun⟩) hns
  | case4 run n ns hinline hempty ih =>
    obtain ⟨hn, hns⟩ := List.forall_mem_cons.1 hns
    exact List.forall_mem_cons.2 ⟨⟨hn.isBlock hinline, hn.2⟩, ih (by simp) hns⟩
  | case5 run n ns hinline hempty ih =>
    obtain ⟨hn, hns⟩ := List.forall_mem_cons.1 hns
    exact List.forall_mem_cons.2 ⟨⟨rfl, hparagraph hrun⟩, List.forall_mem_cons.2
      ⟨⟨hn.isBlock hinline, hn.2⟩, ih (by simp) hns⟩⟩

theorem Node.fits_item (h : ∀ n ∈ ns, n.Fits .flow) :
    (Node.new .listItem (wrapRuns [] ns)).Fits .items := by
  have hblocks := wrapRuns_blocks (List.forall_mem_nil _) h
  refine Node.fits_new rfl ?_ fun c hc => (hblocks c hc).2
  exact List.all_eq_true.2 fun c hc => (hblocks c hc).1

theorem fits_finish {tag : Tag} (htakes : l.takes (.start tag) = true)
    (hcode : ∀ lang, Span.ofTag tag ≠ .code lang) (h : ∀ n ∈ ns, n.Fits tag.inside) :
    ∀ n ∈ (Frame.mk (.ofTag tag) ns.reverse "").finish, n.Fits l := by
  cases tag with
  | fenced | indented => exact absurd rfl (hcode _)
  | strikethrough | quote | htmlBlock =>
    simp only [Frame.finish, Span.ofTag, List.reverse_reverse]
    intro n hn
    obtain ⟨hkind, hbelow⟩ := h n hn
    refine ⟨?_, hbelow⟩
    cases l with
    | flow => first | exact hkind | simp [Kind.standsAt, show n.kind.isInline = true from hkind]
    | inline => first | exact hkind | cases htakes
    | _ => cases htakes
  | list start =>
    simp only [Frame.finish, Span.ofTag, List.reverse_reverse, List.mem_singleton, forall_eq]
    cases l with
    | flow =>
      refine Node.fits_new rfl ?_ fun c hc => (h c hc).2
      exact List.all_eq_true.2 fun c hc => (h c hc).1
    | _ => cases htakes
  | item =>
    simp only [Frame.finish, Span.ofTag, List.reverse_reverse, List.mem_singleton, forall_eq]
    cases l with
    | items => exact Node.fits_item h
    | _ => cases htakes
  | image url =>
    simp only [Frame.finish, Span.ofTag, List.mem_singleton, forall_eq]
    cases l with
    | flow | inline => exact Node.fits_leaf rfl
    | _ => cases htakes
  | _ =>
    simp only [Frame.finish, Span.ofTag, List.reverse_reverse, List.mem_singleton, forall_eq]
    cases l with
    | texts | items => cases htakes
    | _ => first | exact Node.fits_holder rfl rfl (by simp [TagOf.inside]) h | cases htakes

end

theorem leaves_of_nested {l : Level} {es : List Event} (h : Nested l es) :
    ∃ ns, Leaves es ns ∧ ∀ n ∈ ns, n.Fits l := by
  induction h with
  | nil => exact ⟨[], .nil, List.forall_mem_nil _⟩
  | leaf he htakes _ ih =>
    obtain ⟨ns, hns, hleaves⟩ := exists_leaves_leaf he
    obtain ⟨ms, hms, hfits⟩ := ih
    refine ⟨_, hns.append hms, List.forall_mem_append.2 ⟨fun n hn => ?_, hfits⟩⟩
    obtain ⟨kind, hkind, rfl⟩ := hleaves n hn
    exact Node.fits_leaf (standsAt_of_isInline he htakes hkind)
  | @span l tag inner es htakes hinner _ ihinner ih =>
    obtain ⟨ms, hms, hfits⟩ := ih
    suffices hspan : ∃ ns, Leaves (Markdown.span tag inner) ns ∧ ∀ n ∈ ns, n.Fits l by
      obtain ⟨ns, hns, hfits'⟩ := hspan
      exact ⟨_, hns.append hms, List.forall_mem_append.2 ⟨hfits', hfits⟩⟩
    by_cases hcode : ∃ lang, Span.ofTag tag = .code lang
    · obtain ⟨lang, htag⟩ := hcode
      have hspanned : Markdown.Spanned (fun _ _ => True) inner := hinner.spanned fun _ _ _ => trivial
      obtain ⟨g, hg⟩ := Spanned.alters hspanned
      have hspan : (g (.new (.ofTag tag))).span = .code lang := (hg _ []).2.trans htag
      refine ⟨_, hg.leaves_span, ?_⟩
      rw [Frame.finish, hspan]
      refine List.forall_mem_singleton.2 (Node.fits_leaf ?_)
      cases l with
      | flow => rfl
      | _ =>
        cases tag with
        | fenced | indented => cases htakes
        | _ => cases htag
    · rw [not_exists] at hcode
      obtain ⟨ns, hns, hfits'⟩ := ihinner
      exact ⟨_, hns.span hcode, fits_finish htakes hcode (fits_joined hfits')⟩

section

variable [Markdown.Parser]

/-- In the document of any text lists hold items, items hold blocks, and no other block holds blocks. -/
theorem outlined_ofMarkdown (markdown : String) : Outlined (Document.ofMarkdown markdown).nodes := by
  obtain ⟨ns, hns, hfits⟩ := leaves_of_nested (Markdown.nested_events markdown)
  have hjoined := fits_joined hfits
  rw [Document.nodes, Document.ofMarkdown_root hns, Node.descendants_eq_preorder]
  refine ignoresIds_isOutlined.number 0 _ ?_
  rw [Node.new, Node.preorder, List.forall_mem_cons]
  exact ⟨List.all_eq_true.2 fun n hn => (hjoined n hn).1,
    outlined_preorderAll.2 fun n hn => (hjoined n hn).2⟩

/-- Leaves have no children either, so every text gives what the proofs about trees ask for. -/
theorem formed_ofMarkdown (markdown : String) : Formed (Document.ofMarkdown markdown).nodes := by
  intro n hn
  have houtlined := outlined_ofMarkdown markdown n hn
  obtain ⟨id, kind, children⟩ := n
  cases kind with
  | list | text | inlineCode | image | code => exact houtlined
  | _ => rfl

end

end Folio
