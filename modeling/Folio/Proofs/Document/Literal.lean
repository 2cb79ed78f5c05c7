import Mathlib.Data.List.Basic
import Folio.Markdown.Reader
import Folio.Proofs.Document.Outlined
/-!
The tree that is built from events keeps their text: nothing of it is lost, said twice or moved, neither
in prose nor in blocks of code (`nodes?_keepsText`). Texts that are joined, spans that leave their
children to their parent, descriptions of images and paragraphs around the runs of an item all leave
the text below them as it was.
-/
set_option autoImplicit false

namespace Folio

namespace Markdown

def TagOf.isCode {α : Type} : TagOf α → Bool
  | .fenced _ | .indented => true
  | _ => false

def EventOf.text? {α : Type} : EventOf α → Option String
  | .text value => some value
  | _ => none

/-- What may stand in a span: texts in a block of code, inline content in an image. -/
def TagOf.allows {α : Type} : TagOf α → EventOf α → Bool
  | .fenced _, e | .indented, e => e.text?.isSome
  | .image _, e => e.isInline
  | _, _ => true

abbrev Proper : List Event → Prop := Spanned fun tag inner => ∀ e ∈ inner, tag.allows e = true

/-- The texts outside blocks of code, inline code, and a space for each break; `around` has the tags of
the spans that are open, innermost first. -/
def proseFrom (around : List Tag) : List Event → List String
  | [] => []
  | .start tag :: es => proseFrom (tag :: around) es
  | .stop :: es => proseFrom around.tail es
  | .text value :: es =>
    if around.any TagOf.isCode then proseFrom around es else value :: proseFrom around es
  | .code value :: es => value :: proseFrom around es
  | .softBreak :: es | .hardBreak :: es => " " :: proseFrom around es
  | .html :: es | .rule :: es => proseFrom around es

/-- The text of each block of code up to its stop, without one line feed at the end. -/
def codeTexts : List Event → List String
  | [] => []
  | .start tag :: es =>
    if tag.isCode then
      dropLineFeed (String.join ((es.takeWhile (· ≠ .stop)).filterMap EventOf.text?)) :: codeTexts es
    else codeTexts es
  | _ :: es => codeTexts es

end Markdown

open Markdown (Event EventOf Tag TagOf Level Nested Spanned Proper proseFrom codeTexts)
open Node (preorderAll numberAll)

def Kind.codeValue? : Kind → Option String
  | .code _ value => some value
  | _ => none

/-- What the nodes and all below them have, in pre-order. -/
def below {α : Type} (f : Kind → List α) (ns : List Node) : List α :=
  (preorderAll ns).flatMap (f ·.kind)

/-- Two texts that are joined have what they had apart, and a paragraph has nothing of its own. -/
structure Literal {α : Type} (f : Kind → List α) : Prop where
  text : ∀ before value : String, f (.text (before ++ value)) = f (.text before) ++ f (.text value)
  paragraph : f .paragraph = []

def BareTexts (ns : List Node) : Prop := ∀ n ∈ ns, ∀ value, n.kind = .text value → n.children = []

section

variable {α : Type} {f : Kind → List α} {ns ms : List Node}

theorem literal_ownText : Literal fun kind => kind.ownText.toList :=
  ⟨fun _ _ => String.toList_append, rfl⟩

theorem literal_codeValue? : Literal fun kind => kind.codeValue?.toList :=
  ⟨fun _ _ => rfl, rfl⟩

@[simp] theorem below_nil (f : Kind → List α) : below f [] = [] := rfl

theorem below_cons (f : Kind → List α) (n : Node) (ns : List Node) :
    below f (n :: ns) = f n.kind ++ below f n.children ++ below f ns := by
  obtain ⟨id, kind, children⟩ := n
  simp [below, preorderAll, Node.preorder]

@[simp] theorem below_append (f : Kind → List α) (ns ms : List Node) :
    below f (ns ++ ms) = below f ns ++ below f ms := by
  simp [below, Node.preorderAll_append]

theorem below_bare {n : Node} (h : n.children = []) : below f [n] = f n.kind := by
  simp [below_cons, h]

theorem toList_plainText (kind : Kind) (ns : List Node) : (Node.new kind ns).plainText.toList =
    kind.ownText.toList ++ below (fun kind => kind.ownText.toList) ns := by
  rw [Node.plainText, Node.descendants_eq_preorder, Node.new, Node.preorder, String.toList_join,
    List.flatMap_map]
  rfl

theorem BareTexts.append (h : BareTexts ns) (h' : BareTexts ms) : BareTexts (ns ++ ms) :=
  List.forall_mem_append.2 ⟨h, h'⟩

theorem BareTexts.joinNode {n : Node} (hn : BareTexts [n]) (h : BareTexts ns) :
    BareTexts (joinNode n ns) := by
  obtain ⟨hn, -⟩ := List.forall_mem_cons.1 hn
  cases ns with
  | nil => simpa [Folio.joinNode, BareTexts] using hn
  | cons top rest =>
    obtain ⟨htop, hrest⟩ := List.forall_mem_cons.1 h
    rw [Folio.joinNode]
    split
    · rename_i before value hbefore hvalue
      exact List.forall_mem_cons.2 ⟨fun _ _ => htop before hbefore, hrest⟩
    · exact List.forall_mem_cons.2 ⟨hn, h⟩

/-- Joining a text with the one before it loses nothing. -/
theorem below_joinNode (hf : Literal f) {n : Node} (hn : BareTexts [n]) (h : BareTexts ns) :
    below f (joinNode n ns).reverse = below f (ns.reverse ++ [n]) := by
  obtain ⟨hn, -⟩ := List.forall_mem_cons.1 hn
  cases ns with
  | nil => rfl
  | cons top rest =>
    obtain ⟨htop, -⟩ := List.forall_mem_cons.1 h
    rw [joinNode]
    split
    · rename_i before value hbefore hvalue
      have htop' := htop before hbefore
      have hn' := hn value hvalue
      have hboth : below f [.mk top.id (.text (before ++ value)) top.children] =
          f (.text (before ++ value)) := below_bare htop'
      simp only [List.reverse_cons, below_append, List.append_assoc, hboth, below_bare htop',
        below_bare hn', hbefore, hvalue, hf.text]
    · simp

theorem BareTexts.joined (h : BareTexts ns) : BareTexts (joined ns) := by
  suffices hall : ∀ before, BareTexts before →
      BareTexts (ns.foldl (fun before n => Folio.joinNode n before) before) from
    fun n hn => hall [] (by simp [BareTexts]) n (by simpa [Folio.joined] using hn)
  induction ns with
  | nil => exact fun _ hbefore => hbefore
  | cons n ns ih =>
    intro before hbefore
    obtain ⟨hn, hns⟩ := List.forall_mem_cons.1 h
    exact ih hns _ (.joinNode (by simpa [BareTexts] using hn) hbefore)

theorem below_joined (hf : Literal f) (h : BareTexts ns) : below f (joined ns) = below f ns := by
  suffices hall : ∀ before, BareTexts before →
      below f (ns.foldl (fun before n => joinNode n before) before).reverse =
        below f (before.reverse ++ ns) from hall [] (by simp [BareTexts])
  induction ns with
  | nil => simp
  | cons n ns ih =>
    intro before hbefore
    obtain ⟨hn, hns⟩ := List.forall_mem_cons.1 h
    have hn' : BareTexts [n] := by simpa [BareTexts] using hn
    rw [List.foldl_cons, ih hns _ (.joinNode hn' hbefore), below_append, below_joinNode hf hn' hbefore]
    simp [below_cons]

theorem below_wrapRuns (hf : Literal f) (run ns : List Node) :
    below f (wrapRuns run ns) = below f (run.reverse ++ ns) := by
  have hparagraph (run ns : List Node) :
      below f (.new .paragraph run :: ns) = below f run ++ below f ns := by
    rw [below_cons, Node.new, Node.kind_mk, hf.paragraph]
    rfl
  fun_induction wrapRuns run ns with
  | case1 => rfl
  | case2 run => simp [hparagraph]
  | case3 run n ns hinline ih => simpa using ih
  | case4 run n ns hinline hempty ih =>
    obtain rfl : run = [] := by simpa using hempty
    simpa [below_cons] using ih
  | case5 run n ns hinline hempty ih =>
    simp only [hparagraph, below_cons, below_append] at ih ⊢
    simp [ih]

end

mutual

theorem map_kind_number (next : Nat) : (n : Node) →
    (n.number next).1.preorder.map Node.kind = n.preorder.map Node.kind
  | .mk id kind children => by
    simp [Node.number, Node.preorder, map_kind_numberAll (next + 1) children]

theorem map_kind_numberAll (next : Nat) : (ns : List Node) →
    (preorderAll (numberAll next ns).1).map Node.kind = (preorderAll ns).map Node.kind
  | [] => rfl
  | n :: ns => by
    simp [numberAll, preorderAll, map_kind_number next n, map_kind_numberAll _ ns]

end

theorem Document.flatMap_kind_ofNodes {α : Type} (f : Kind → List α) (ns : List Node) :
    (Document.ofNodes ns).nodes.flatMap (f ·.kind) = f .document ++ below f ns := by
  have hkinds : (Document.ofNodes ns).nodes.map Node.kind =
      .document :: (preorderAll ns).map Node.kind := by
    rw [Document.nodes, Node.descendants_eq_preorder, Document.ofNodes, map_kind_number, Node.new,
      Node.preorder]
    rfl
  have hall := congrArg (List.flatMap f) hkinds
  simpa only [List.flatMap_map, List.flatMap_cons, below] using hall

section

variable {around : List Tag} {es inner rest : List Event} {tag : Tag}

theorem proseFrom_codeBlock (haround : around.any TagOf.isCode = true)
    (h : ∀ e ∈ inner, e.text?.isSome = true) :
    proseFrom around (inner ++ rest) = proseFrom around rest := by
  induction inner with
  | nil => rfl
  | cons e inner ih =>
    obtain ⟨he, hinner⟩ := List.forall_mem_cons.1 h
    cases e with
    | text value => simpa [proseFrom, haround] using ih hinner
    | _ => cases he

theorem codeTexts_texts (h : ∀ e ∈ inner, e.text?.isSome = true) :
    codeTexts (inner ++ rest) = codeTexts rest := by
  induction inner with
  | nil => rfl
  | cons e inner ih =>
    obtain ⟨he, hinner⟩ := List.forall_mem_cons.1 h
    cases e with
    | text value => simpa [codeTexts] using ih hinner
    | _ => cases he

theorem codeTexts_inline (h : ∀ e ∈ inner, e.isInline = true) :
    codeTexts (inner ++ rest) = codeTexts rest := by
  induction inner with
  | nil => rfl
  | cons e inner ih =>
    obtain ⟨he, hinner⟩ := List.forall_mem_cons.1 h
    cases e with
    | start tag =>
      have htag : tag.isCode = false := by cases tag <;> first | rfl | cases he
      simpa [codeTexts, htag] using ih hinner
    | _ => simpa [codeTexts] using ih hinner

theorem span_append (tag : Tag) (inner rest : List Event) :
    Markdown.span tag inner ++ rest = .start tag :: (inner ++ .stop :: rest) := by
  simp [Markdown.span]

theorem texts_of_allows (hcode : tag.isCode = true) (h : ∀ e ∈ inner, tag.allows e = true) :
    ∀ e ∈ inner, e.text?.isSome = true := by
  cases tag <;> first | exact h | cases hcode

theorem proseFrom_codeSpan (hcode : tag.isCode = true) (h : ∀ e ∈ inner, e.text?.isSome = true) :
    proseFrom around (Markdown.span tag inner ++ rest) = proseFrom around rest := by
  rw [span_append, proseFrom, proseFrom_codeBlock (by simp [hcode]) h]
  rfl

theorem codeTexts_codeSpan (hcode : tag.isCode = true) (h : ∀ e ∈ inner, e.text?.isSome = true) :
    codeTexts (Markdown.span tag inner ++ rest) =
      dropLineFeed (String.join (inner.filterMap EventOf.text?)) :: codeTexts rest := by
  have hpass : ∀ e ∈ inner, decide (e ≠ .stop) = true := by
    intro e he
    refine decide_eq_true ?_
    rintro rfl
    cases h _ he
  have hbefore : (inner ++ .stop :: rest).takeWhile (· ≠ .stop) = inner := by
    rw [List.takeWhile_append_of_pos hpass]
    simp
  rw [span_append, codeTexts, if_pos hcode, codeTexts_texts h, hbefore]
  rfl

theorem codeTexts_otherSpan (hcode : tag.isCode = false) :
    codeTexts (Markdown.span tag inner ++ rest) = codeTexts (inner ++ .stop :: rest) := by
  rw [span_append, codeTexts, if_neg (by simp [hcode])]

theorem proseFrom_append (h : Proper es) (haround : around.any TagOf.isCode = false)
    (rest : List Event) :
    proseFrom around (es ++ rest) = proseFrom [] es ++ proseFrom around rest := by
  induction h generalizing around rest with
  | nil => rfl
  | @leaf e es he _ ih =>
    cases e with
    | start | stop => cases he
    | _ => simp [proseFrom, haround, ih haround rest]
  | @span tag inner es hallows _ _ ihinner ih =>
    rw [List.append_assoc]
    cases hcode : tag.isCode with
    | true =>
      have htexts := texts_of_allows hcode hallows
      rw [proseFrom_codeSpan hcode htexts, proseFrom_codeSpan hcode htexts, ih haround]
    | false =>
      have hspan {around : List Tag} (haround : around.any TagOf.isCode = false) (rest : List Event) :
          proseFrom around (Markdown.span tag inner ++ rest) =
            proseFrom [] inner ++ proseFrom around rest := by
        rw [span_append, proseFrom, ihinner (by simp [hcode, haround])]
        rfl
      rw [hspan haround, hspan rfl, ih haround, List.append_assoc]

theorem codeTexts_append (h : Proper es) (rest : List Event) :
    codeTexts (es ++ rest) = codeTexts es ++ codeTexts rest := by
  induction h generalizing rest with
  | nil => rfl
  | @leaf e es he _ ih =>
    cases e with
    | start | stop => cases he
    | _ => simpa [codeTexts] using ih rest
  | @span tag inner es hallows _ _ ihinner ih =>
    rw [List.append_assoc]
    cases hcode : tag.isCode with
    | true =>
      have htexts := texts_of_allows hcode hallows
      rw [codeTexts_codeSpan hcode htexts, codeTexts_codeSpan hcode htexts, ih, List.cons_append]
    | false =>
      rw [codeTexts_otherSpan hcode, codeTexts_otherSpan hcode, ihinner, ihinner, List.append_assoc]
      simp [codeTexts, ih]

end

/-- The nodes that events leave, with their prose and their code. -/
structure Keeps (es : List Event) (ns : List Node) : Prop where
  leaves : Leaves es ns
  bare : BareTexts ns
  prose : below (fun kind => kind.ownText.toList) ns = (proseFrom [] es).flatMap String.toList
  code : below (fun kind => kind.codeValue?.toList) ns = codeTexts es

section

variable {es as bs inner : List Event} {ns ms : List Node} {tag : Tag}

theorem Keeps.append (h : Keeps as ns) (h' : Keeps bs ms) (has : Proper as) :
    Keeps (as ++ bs) (ns ++ ms) where
  leaves := h.leaves.append h'.leaves
  bare := h.bare.append h'.bare
  prose := by rw [below_append, h.prose, h'.prose, proseFrom_append has rfl, List.flatMap_append]
  code := by rw [below_append, h.code, h'.code, codeTexts_append has]

theorem keeps_leaf {e : Event} (he : e.isLeaf = true) : ∃ ns, Keeps [e] ns := by
  have hskip (es : List Event) (hleaves : Leaves es []) (hprose : proseFrom [] es = [])
      (hcode : codeTexts es = []) : Keeps es [] :=
    ⟨hleaves, by simp [BareTexts], by simp [hprose], by simp [hcode]⟩
  have hnode (e : Event) (value : String) (kind : Kind) (hleaves : Leaves [e] [.leaf kind])
      (htext : kind.ownText = value) (hvalue : kind.codeValue? = none)
      (hprose : proseFrom [] [e] = [value]) (hcode : codeTexts [e] = []) : Keeps [e] [.leaf kind] :=
    ⟨hleaves, by simp [BareTexts, Node.leaf, Node.new],
      by simp [below_cons, Node.leaf, Node.new, hprose, htext],
      by simp [below_cons, Node.leaf, Node.new, hcode, hvalue]⟩
  cases e with
  | start | stop => cases he
  | text value => exact ⟨_, hnode _ value (.text value) (leaves_text value) rfl rfl rfl rfl⟩
  | code value =>
    exact ⟨_, hnode _ value (.inlineCode value) (leaves_leaf fun _ _ => rfl) rfl rfl rfl rfl⟩
  | softBreak | hardBreak =>
    exact ⟨_, hnode _ " " (.text " ") (leaves_leaf fun _ _ => rfl) rfl rfl rfl rfl⟩
  | html | rule => exact ⟨[], hskip _ (fun _ _ _ => rfl) rfl rfl⟩

theorem run?_texts (h : ∀ e ∈ inner, e.text?.isSome = true) (lang : Option String)
    (children : List Node) (text : String) (outer : List Frame) :
    (Frames.mk ⟨.code lang, children, text⟩ outer).run? inner =
      some ⟨⟨.code lang, children, text ++ String.join (inner.filterMap EventOf.text?)⟩, outer⟩ := by
  induction inner generalizing text with
  | nil => simp [Frames.run?, String.join_nil]
  | cons e inner ih =>
    obtain ⟨he, hinner⟩ := List.forall_mem_cons.1 h
    cases e with
    | text value =>
      rw [Frames.run?, Frames.step?, Option.bind_some, ih hinner, List.filterMap_cons, EventOf.text?,
        String.join_cons, String.append_assoc]
    | _ => cases he

theorem keeps_codeBlock {lang : Option String} (htag : Span.ofTag tag = .code lang)
    (hcode : tag.isCode = true) (h : ∀ e ∈ inner, e.text?.isSome = true) :
    Keeps (Markdown.span tag inner)
      [.leaf (.code lang (dropLineFeed (String.join (inner.filterMap EventOf.text?))))] where
  leaves := by
    intro f outer _
    rw [Markdown.span, Frames.run?, Frames.step?, Option.bind_some, Frames.run?_append, Frame.new, htag,
      run?_texts h]
    simp [Frames.run?, Frames.step?, Frame.finish]
  bare := by simp [BareTexts, Node.leaf, Node.new]
  prose := by
    rw [← List.append_nil (Markdown.span tag inner), proseFrom_codeSpan hcode h]
    rfl
  code := by
    rw [← List.append_nil (Markdown.span tag inner), codeTexts_codeSpan hcode h]
    rfl

theorem below_new {α : Type} {f : Kind → List α} {kind : Kind} (h : f kind = []) (ns : List Node) :
    below f [.new kind ns] = below f ns := by
  simp [below_cons, Node.new, h]

/-- Of what a span leaves that is no image and no block of code, only the children have text. -/
theorem below_finish {α : Type} {f : Kind → List α} (hf : Literal f)
    (hnode : ∀ kind, Span.ofTag tag = .node kind → f kind = [])
    (hcode : ∀ lang, Span.ofTag tag ≠ .code lang) (himage : ∀ url, Span.ofTag tag ≠ .image url)
    (ns : List Node) :
    below f (Frame.mk (.ofTag tag) ns.reverse "").finish = below f ns := by
  rw [Frame.finish]
  split
  · rename_i htag
    rw [below_new (hnode _ htag), below_wrapRuns hf]
    simp
  · rename_i kind _ htag
    rw [below_new (hnode _ htag), List.reverse_reverse]
  · simp
  · rename_i htag
    exact absurd htag (himage _)
  · rename_i htag
    exact absurd htag (hcode _)

theorem BareTexts.finish (h : BareTexts ns) (hcode : ∀ lang, Span.ofTag tag ≠ .code lang) :
    BareTexts (Frame.mk (.ofTag tag) ns.reverse "").finish := by
  cases tag with
  | fenced | indented => exact absurd rfl (hcode _)
  | strikethrough | quote | htmlBlock => simpa [Frame.finish, Span.ofTag] using h
  | _ => simp [Frame.finish, Span.ofTag, BareTexts, Node.new, Node.leaf]

theorem ownText_ofTag {kind : Kind} (h : Span.ofTag tag = .node kind) : kind.ownText.toList = [] := by
  cases tag <;> cases h <;> rfl

theorem codeValue?_ofTag {kind : Kind} (h : Span.ofTag tag = .node kind) :
    kind.codeValue?.toList = [] := by
  cases tag <;> cases h <;> rfl

theorem below_image (url : String) (ns : List Node) :
    below (fun kind => kind.ownText.toList) (Frame.mk (.image url) ns.reverse "").finish =
      below (fun kind => kind.ownText.toList) ns := by
  simp only [Frame.finish, Node.leaf, below_cons, Node.new, Node.kind_mk, Node.children_mk, below_nil,
    List.append_nil, List.reverse_reverse]
  exact toList_plainText .paragraph ns

theorem Keeps.span (h : Keeps inner ms) (hinner : Proper inner)
    (hallows : ∀ e ∈ inner, tag.allows e = true) (htag : tag.isCode = false)
    (hcode : ∀ lang, Span.ofTag tag ≠ .code lang) :
    Keeps (Markdown.span tag inner) (Frame.mk (.ofTag tag) (joined ms).reverse "").finish where
  leaves := h.leaves.span hcode
  bare := h.bare.joined.finish hcode
  prose := by
    have hprose : proseFrom [] (Markdown.span tag inner) = proseFrom [] inner := by
      rw [Markdown.span, proseFrom, proseFrom_append hinner (by simp [htag])]
      simp [proseFrom]
    rw [hprose, ← h.prose, ← below_joined literal_ownText h.bare]
    cases tag with
    | image url => exact below_image url _
    | _ =>
      exact below_finish literal_ownText (fun _ => ownText_ofTag) hcode (fun _ => Span.noConfusion) _
  code := by
    have hinside : codeTexts (Markdown.span tag inner) = codeTexts inner := by
      rw [← List.append_nil (Markdown.span tag inner), codeTexts_otherSpan htag, codeTexts_append hinner]
      simp [codeTexts]
    rw [hinside]
    cases tag with
    | image url =>
      have hnone : codeTexts inner = [] := by
        rw [← List.append_nil inner, codeTexts_inline hallows]
        rfl
      rw [hnone]
      rfl
    | _ =>
      rw [← h.code, ← below_joined literal_codeValue? h.bare]
      exact below_finish literal_codeValue? (fun _ => codeValue?_ofTag) hcode
        (fun _ => Span.noConfusion) _

theorem Proper.keeps (h : Proper es) : ∃ ns, Keeps es ns := by
  induction h with
  | nil => exact ⟨[], .nil, by simp [BareTexts], rfl, rfl⟩
  | leaf he _ ih =>
    obtain ⟨ns, hns⟩ := keeps_leaf he
    obtain ⟨ms, hms⟩ := ih
    exact ⟨_, hns.append hms (.leaf he .nil)⟩
  | @span tag inner es hallows hinner _ ihinner ih =>
    have hspan : Proper (Markdown.span tag inner) := .one hallows hinner
    obtain ⟨ms, hms⟩ := ih
    suffices hns : ∃ ns, Keeps (Markdown.span tag inner) ns by
      obtain ⟨ns, hns⟩ := hns
      exact ⟨_, hns.append hms hspan⟩
    obtain ⟨ns, hns⟩ := ihinner
    cases tag with
    | fenced | indented => exact ⟨_, keeps_codeBlock rfl rfl hallows⟩
    | _ => exact ⟨_, hns.span hinner hallows rfl fun _ => Span.noConfusion⟩

end

theorem isInline_of_nested {l : Level} {es : List Event} (h : Nested l es) (hl : l = .inline) :
    ∀ e ∈ es, e.isInline = true := by
  induction h with
  | nil => exact List.forall_mem_nil _
  | leaf _ htakes _ ih =>
    subst hl
    exact List.forall_mem_cons.2 ⟨htakes, ih rfl⟩
  | @span l tag inner es htakes _ _ ihinner ih =>
    subst hl
    have hinside : tag.inside = .inline := by cases tag <;> first | rfl | cases htakes
    rw [span_append, List.forall_mem_cons, List.forall_mem_append, List.forall_mem_cons]
    exact ⟨htakes, ihinner hinside, rfl, ih rfl⟩

theorem isText_of_nested {l : Level} {es : List Event} (h : Nested l es) (hl : l = .texts) :
    ∀ e ∈ es, e.text?.isSome = true := by
  induction h with
  | nil => exact List.forall_mem_nil _
  | @leaf l e es he htakes _ ih =>
    subst hl
    refine List.forall_mem_cons.2 ⟨?_, ih rfl⟩
    cases e <;> first | rfl | cases htakes
  | span htakes _ _ _ _ =>
    subst hl
    cases htakes

theorem proper_of_nested {l : Level} {es : List Event} (h : Nested l es) : Proper es := by
  refine h.spanned fun tag inner hinner => ?_
  cases tag with
  | fenced | indented => exact isText_of_nested hinner rfl
  | image => exact isInline_of_nested hinner rfl
  | _ => exact fun _ _ => rfl

/-- Whatever events a tree is built from, if their starts and stops match, blocks of code hold texts and
images inline content, then they make a tree. Its text are the texts outside blocks of code, the inline
code and a space for each break, in the order of the events; and its blocks of code have the texts of
theirs, in their order, each without a line feed at the end. -/
theorem nodes?_keepsText {es : List Event} (h : Proper es) :
    ∃ ns, nodes? es = some ns ∧
      (Document.ofNodes ns).root.plainText = String.join (proseFrom [] es) ∧
      (Document.ofNodes ns).nodes.filterMap (·.kind.codeValue?) = codeTexts es := by
  obtain ⟨ns, hns⟩ := Proper.keeps h
  refine ⟨joined ns, nodes?_of_leaves hns.leaves, ?_, ?_⟩
  · rw [← String.toList_inj, String.toList_join, ← hns.prose, ← below_joined literal_ownText hns.bare,
      Node.plainText, String.toList_join, List.flatMap_map]
    exact Document.flatMap_kind_ofNodes (fun kind => kind.ownText.toList) (joined ns)
  · rw [← hns.code, ← below_joined literal_codeValue? hns.bare, List.filterMap_eq_flatMap_toList]
    exact Document.flatMap_kind_ofNodes (fun kind => kind.codeValue?.toList) (joined ns)

theorem nodes?_keepsText_mixed :
    ∃ ns, nodes? (Markdown.events "- a\n  > *b*\n\n  c ![d ![e](f) `g`](h)\\\n  i\n\n~~~\nj\n\n~~~") =
        some ns ∧
      (Document.ofNodes ns).root.plainText = "abc d e g i" ∧
      (Document.ofNodes ns).nodes.filterMap (·.kind.codeValue?) = ["j\n"] := by
  obtain ⟨ns, hns, hprose, hcode⟩ := nodes?_keepsText
    (proper_of_nested (Markdown.nested_events
      "- a\n  > *b*\n\n  c ![d ![e](f) `g`](h)\\\n  i\n\n~~~\nj\n\n~~~"))
  refine ⟨ns, hns, hprose.trans ?_, hcode.trans ?_⟩
  · decide +kernel
  · decide +kernel

end Folio
