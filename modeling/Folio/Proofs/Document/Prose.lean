import Folio.Proofs.Document.Literal
/-!
Where the characters of a tree come from: inline code from inline code (`code_mem_events`), and texts and
descriptions of images from the prose of the events, in which each break is a space (`mem_ownText_iff`).
-/
set_option autoImplicit false

namespace Folio

namespace Markdown

def EventOf.code? {α : Type} : EventOf α → Option String
  | .code value => some value
  | _ => none

variable [Parser]

/-- Inline code has spaces for the line ends that it is written with. -/
def SpacesInCode (markdown : String) : Prop :=
  ∀ value ∈ (events markdown).filterMap EventOf.code?, '\n' ∉ value.toList

/-- A line end is reported as a break, so only a character reference gives a text a line feed. -/
def FeedInText (markdown : String) : Prop :=
  ∃ value ∈ proseFrom [] (events markdown), '\n' ∈ value.toList

end Markdown

open Markdown (Event Tag Spanned proseFrom)

def Kind.inlineCodes : Kind → List String
  | .inlineCode value => [value]
  | _ => []

theorem literal_inlineCodes : Literal Kind.inlineCodes := ⟨fun _ _ => rfl, rfl⟩

theorem inlineCodes_ofTag {tag : Tag} {kind : Kind} (h : Span.ofTag tag = .node kind) :
    kind.inlineCodes = [] := by
  cases tag <;> cases h <;> rfl

/-- The nodes that events leave have their inline code from them. -/
structure HasCodes (es : List Event) (ns : List Node) : Prop where
  leaves : Leaves es ns
  bare : BareTexts ns
  codes : ∀ value ∈ below Kind.inlineCodes ns, .code value ∈ es

section

variable {holds : Tag → List Event → Prop} {es as bs inner : List Event} {ns ms : List Node} {tag : Tag}

theorem HasCodes.append (h : HasCodes as ns) (h' : HasCodes bs ms) : HasCodes (as ++ bs) (ns ++ ms) where
  leaves := h.leaves.append h'.leaves
  bare := h.bare.append h'.bare
  codes := by
    rw [below_append]
    exact List.forall_mem_append.2 ⟨fun value hv => List.mem_append_left _ (h.codes value hv),
      fun value hv => List.mem_append_right _ (h'.codes value hv)⟩

theorem hasCodes_leaf {e : Event} (he : e.isLeaf = true) : ∃ ns, HasCodes [e] ns := by
  have hnode (e : Event) (kind : Kind) (hleaves : Leaves [e] [.leaf kind])
      (hcodes : ∀ value ∈ kind.inlineCodes, .code value ∈ [e]) : HasCodes [e] [.leaf kind] :=
    ⟨hleaves, by simp [BareTexts, Node.leaf, Node.new],
      by simpa [below_cons, Node.leaf, Node.new] using hcodes⟩
  cases e with
  | start | stop => cases he
  | text value => exact ⟨_, hnode _ _ (leaves_text value) (by simp [Kind.inlineCodes])⟩
  | code | softBreak | hardBreak =>
    exact ⟨_, hnode _ _ (leaves_leaf fun _ _ => rfl) (by simp [Kind.inlineCodes])⟩
  | html | rule => exact ⟨[], fun _ _ _ => rfl, by simp [BareTexts], by simp⟩

/-- Images and blocks of code leave no inline code, other spans what stands in them. -/
theorem HasCodes.span (h : HasCodes inner ms) (hinner : Spanned holds inner) :
    ∃ ns, HasCodes (Markdown.span tag inner) ns := by
  have hmem {value : String} (hv : .code value ∈ inner) : .code value ∈ Markdown.span tag inner := by
    simp [Markdown.span, hv]
  by_cases hcode : ∃ lang, Span.ofTag tag = .code lang
  · obtain ⟨lang, htag⟩ := hcode
    obtain ⟨g, hg⟩ := Spanned.alters hinner
    have hspan : (g (.new (.ofTag tag))).span = .code lang := (hg _ []).2.trans htag
    refine ⟨_, hg.leaves_span, ?_, ?_⟩ <;>
      simp [Frame.finish, hspan, BareTexts, below_cons, Node.leaf, Node.new, Kind.inlineCodes]
  · rw [not_exists] at hcode
    refine ⟨_, h.leaves.span hcode, h.bare.joined.finish hcode, fun value hvalue => hmem (h.codes value ?_)⟩
    by_cases himage : ∃ url, Span.ofTag tag = .image url
    · obtain ⟨url, htag⟩ := himage
      simp [Frame.finish, htag, below_cons, Node.leaf, Node.new, Kind.inlineCodes] at hvalue
    · rw [not_exists] at himage
      rwa [below_finish literal_inlineCodes (fun _ => inlineCodes_ofTag) hcode himage,
        below_joined literal_inlineCodes h.bare] at hvalue

theorem hasCodes_of_spanned (h : Spanned holds es) : ∃ ns, HasCodes es ns := by
  induction h with
  | nil => exact ⟨[], .nil, by simp [BareTexts], by simp⟩
  | leaf he _ ih =>
    obtain ⟨ns, hns⟩ := hasCodes_leaf he
    obtain ⟨ms, hms⟩ := ih
    exact ⟨_, hns.append hms⟩
  | @span tag inner es _ hinner _ ihinner ih =>
    obtain ⟨ns, hns⟩ := ihinner
    obtain ⟨ns', hns'⟩ : ∃ ns, HasCodes (Markdown.span tag inner) ns := hns.span hinner
    obtain ⟨ms, hms⟩ := ih
    exact ⟨_, hns'.append hms⟩

end

section

variable [Markdown.Parser] {markdown : String}

theorem Document.ofMarkdown_nodes {ns : List Node} (h : Leaves (Markdown.events markdown) ns) :
    (Document.ofMarkdown markdown).nodes = (Document.ofNodes (joined ns)).nodes := by
  rw [nodes, nodes, ofMarkdown_root h]

/-- The inline code of a tree is inline code of the text, as it stands. -/
theorem code_mem_events {n : Node} (hn : n ∈ (Document.ofMarkdown markdown).nodes) {value : String}
    (hkind : n.kind = .inlineCode value) : .code value ∈ Markdown.events markdown := by
  obtain ⟨ns, hns⟩ := hasCodes_of_spanned (proper_of_nested (Markdown.nested_events markdown))
  rw [Document.ofMarkdown_nodes hns.leaves] at hn
  have hvalue : value ∈ (Document.ofNodes (joined ns)).nodes.flatMap (Kind.inlineCodes ·.kind) :=
    List.mem_flatMap.2 ⟨n, hn, by simp [hkind, Kind.inlineCodes]⟩
  rw [Document.flatMap_kind_ofNodes, below_joined literal_inlineCodes hns.bare] at hvalue
  exact hns.codes value (by simpa [Kind.inlineCodes] using hvalue)

/-- The tree has the characters of the prose and no others. -/
theorem mem_ownText_iff (c : Char) :
    (∃ n ∈ (Document.ofMarkdown markdown).nodes, c ∈ n.kind.ownText.toList) ↔
      ∃ value ∈ proseFrom [] (Markdown.events markdown), c ∈ value.toList := by
  obtain ⟨ns, hns⟩ := Proper.keeps (proper_of_nested (Markdown.nested_events markdown))
  have hall := Document.flatMap_kind_ofNodes (fun kind => kind.ownText.toList) (joined ns)
  rw [← Document.ofMarkdown_nodes hns.leaves, below_joined literal_ownText hns.bare, hns.prose] at hall
  have hmem := congrArg (c ∈ ·) hall
  simpa [List.mem_flatMap, Kind.ownText] using hmem

end

end Folio
