import Folio.Markdown.Outline
/-!
How the blocks of a text stand in each other: a list holds items and nothing else, and an item stands
in a list (`nested_readBlocks`). The block reader keeps this for its stack of open containers from one
line to the next: it makes a list before it opens an item, and finishes the list before any other block.
-/
set_option autoImplicit false

namespace Folio.Markdown

namespace Block

def isItem : Block → Bool
  | .item _ => true
  | _ => false

def isList : Block → Bool
  | .list .. => true
  | _ => false

def inner : Block → List Block
  | .quote blocks | .list _ _ blocks | .item blocks => blocks
  | _ => []

/-- In each block below, what it holds are items exactly if it is a list. -/
inductive Nested : Block → Prop where
  | mk {b : Block} (hkind : ∀ c ∈ b.inner, c.isItem = b.isList)
      (hinner : ∀ c ∈ b.inner, Nested c) : Nested b

theorem Nested.inner {b : Block} (h : b.Nested) :
    ∀ c ∈ b.inner, c.isItem = b.isList ∧ c.Nested := by
  obtain ⟨hkind, hinner⟩ := h
  exact fun c hc => ⟨hkind c hc, hinner c hc⟩

theorem Nested.of_inner_nil {b : Block} (h : b.inner = []) : b.Nested :=
  .mk (by simp [h]) (by simp [h])

end Block

def Container.isItem : Container → Bool
  | .item _ => true
  | _ => false

def Container.isList : Container → Bool
  | .list .. => true
  | _ => false

/-- Whether the innermost container is a list. -/
def takesItems : List Open → Bool
  | [] => false
  | top :: _ => top.container.isList

/-- Of the open containers the items are those that stand in a list, and so it is with the blocks that
each of them has. -/
inductive Stacked : List Open → Prop where
  | nil : Stacked []
  | cons {top : Open} {rest : List Open}
      (hblocks : ∀ b ∈ top.blocks, b.isItem = top.container.isList ∧ b.Nested)
      (hitem : top.container.isItem = takesItems rest) (hrest : Stacked rest) : Stacked (top :: rest)

structure Outline.Nested (o : Outline) : Prop where
  spine : Stacked o.spine
  blocks : ∀ b ∈ o.blocks, b.isItem = false ∧ b.Nested

theorem Container.isItem_close (c : Container) (bs : List Block) :
    (c.close bs).isItem = c.isItem := by
  cases c <;> rfl

theorem Container.nested_close {c : Container} {bs : List Block}
    (h : ∀ b ∈ bs, b.isItem = c.isList ∧ b.Nested) : (c.close bs).Nested := by
  cases c <;> exact .mk (fun b hb => (h b hb).1) (fun b hb => (h b hb).2)

theorem Container.isItem_of_isList {c : Container} (h : c.isList = true) : c.isItem = false := by
  cases c with
  | list => rfl
  | _ => cases h

namespace Outline

variable {o : Outline}

@[simp] theorem takesItems_append (o : Outline) (b : Block) :
    takesItems (o.append b).spine = takesItems o.spine := by
  cases h : o.spine <;> simp [append, h, takesItems]

theorem Nested.append (h : o.Nested) {b : Block} (hitem : b.isItem = takesItems o.spine)
    (hb : b.Nested) : (o.append b).Nested := by
  obtain ⟨spine, blocks, blank, bare, definitions⟩ := o
  obtain ⟨hspine, hblocks⟩ := h
  cases hspine with
  | nil => exact ⟨.nil, List.forall_mem_cons.2 ⟨⟨hitem, hb⟩, hblocks⟩⟩
  | cons htop hin hrest =>
    exact ⟨.cons (List.forall_mem_cons.2 ⟨⟨hitem, hb⟩, htop⟩) hin hrest, hblocks⟩

theorem Nested.push (h : o.Nested) {c : Container} (hitem : c.isItem = takesItems o.spine) :
    (o.push c).Nested :=
  ⟨.cons (by simp) hitem h.spine, h.blocks⟩

theorem Nested.close (h : o.Nested) : o.close.Nested := by
  obtain ⟨spine, blocks, blank, bare, definitions⟩ := o
  obtain ⟨hspine, hblocks⟩ := h
  cases hspine with
  | nil => exact ⟨.nil, hblocks⟩
  | @cons top rest htop hin hrest =>
    have hrest' : Nested ⟨rest, blocks, blank, bare, definitions⟩ := ⟨hrest, hblocks⟩
    exact hrest'.append (by rw [Container.isItem_close, hin])
      (Container.nested_close (by simpa using htop))

theorem Nested.takesItems_close (h : o.Nested) (hlist : takesItems o.spine = true) :
    takesItems o.close.spine = false := by
  obtain ⟨spine, blocks, blank, bare, definitions⟩ := o
  cases h.spine with
  | nil => cases hlist
  | cons _ hin _ =>
    have hitem := hin.symm.trans (Container.isItem_of_isList hlist)
    rw [Outline.close]
    simpa using hitem

theorem Nested.closeN (h : o.Nested) (n : Nat) : (o.closeN n).Nested := by
  induction n generalizing o with
  | zero => exact h
  | succ n ih => exact ih h.close

theorem Nested.loosen (h : o.Nested) : o.loosen.Nested := by
  obtain ⟨spine, blocks, blank, bare, definitions⟩ := o
  unfold Outline.loosen
  dsimp only
  split
  · obtain ⟨hspine, hblocks⟩ := h
    cases hspine with
    | cons htop hin hrest =>
      cases hrest with
      | cons hbs hin' hrest' => exact ⟨.cons htop hin (.cons hbs hin' hrest'), hblocks⟩
  · exact h

@[simp] theorem takesItems_loosen (o : Outline) :
    takesItems o.loosen.spine = takesItems o.spine := by
  unfold loosen
  split
  · rename_i h
    simp [h, takesItems]
  · rfl

theorem Nested.settle (h : o.Nested) (htakes : takesItems o.spine = false) :
    (if o.blank then { o.loosen with blank := false } else o).Nested ∧
      takesItems (if o.blank then { o.loosen with blank := false } else o).spine = false := by
  split
  · exact ⟨⟨h.loosen.spine, h.loosen.blocks⟩, by simpa using htakes⟩
  · exact ⟨h, htakes⟩

theorem Nested.finishList (h : o.Nested) :
    o.finishList.Nested ∧ takesItems o.finishList.spine = false := by
  unfold Outline.finishList
  split
  · rename_i hspine
    exact h.close.settle (h.takesItems_close (by rw [hspine]; rfl))
  · rename_i hne
    refine h.settle ?_
    cases hspine : o.spine with
    | nil => rfl
    | cons top rest =>
      obtain ⟨c, bs⟩ := top
      cases c with
      | list t d s => exact absurd hspine (hne t d s bs rest)
      | _ => rfl

theorem Nested.pushList (h : o.Nested) (htakes : takesItems o.spine = false) (marker : ListMarker) :
    Nested { o.push (.list true marker.delimiter marker.start) with blank := false } :=
  have hpush := h.push (c := .list true marker.delimiter marker.start) htakes.symm
  ⟨hpush.spine, hpush.blocks⟩

theorem Nested.continueList (h : o.Nested) (marker : ListMarker) :
    (o.continueList marker).Nested ∧ takesItems (o.continueList marker).spine = true := by
  have hfinish := h.finishList
  unfold Outline.continueList
  split
  · rename_i hspine
    split
    · have hstack := h.spine
      rw [hspine] at hstack
      cases hstack with
      | cons htop hin hrest => exact ⟨⟨.cons htop hin hrest, h.blocks⟩, rfl⟩
    · exact ⟨hfinish.1.pushList hfinish.2 marker, rfl⟩
  · rename_i hspine
    exact ⟨h.pushList (by rw [hspine]; rfl) marker, rfl⟩
  · exact ⟨hfinish.1.pushList hfinish.2 marker, rfl⟩

end Outline

theorem nested_openContainers (fuel : Nat) {o : Outline} (h : o.Nested) (m : Margin) :
    (openContainers fuel o m).1.Nested := by
  induction fuel generalizing o m with
  | zero => exact h
  | succ fuel ih =>
    unfold openContainers
    dsimp only
    split
    · exact h
    · split
      · rename_i marker after _
        obtain ⟨hlist, htakes⟩ := h.continueList marker
        have hitem := hlist.push (c := .item marker.indent) htakes.symm
        split
        · exact ⟨hitem.spine, hitem.blocks⟩
        · exact ih hitem after
      · split
        · rename_i after _
          obtain ⟨hfinish, htakes⟩ := h.finishList
          exact ih (hfinish.push (c := .quote) htakes.symm) after
        · exact h

def Block.IsLeaf (b : Block) : Prop := b.inner = [] ∧ b.isItem = false

theorem isLeaf_readIndented (open_ : List Container) (p : Place) (spare : Nat) :
    (readIndented open_ p spare).1.IsLeaf := ⟨rfl, rfl⟩

theorem isLeaf_readHeading (level : Nat) (p : Place) : (readHeading level p).1.IsLeaf := ⟨rfl, rfl⟩

theorem isLeaf_readFenced (open_ : List Container) (indent : Nat) (mark : Char) (size : Nat)
    (p : Place) : (readFenced open_ indent mark size p).1.IsLeaf := ⟨rfl, rfl⟩

theorem isLeaf_readProse {open_ : List Container} {p q : Place} {b : Block}
    (h : readProse open_ p = (.block b, q)) : b.IsLeaf := by
  unfold readProse at h
  dsimp only at h
  split at h
  · cases h
  · split at h
    · cases h
      exact ⟨rfl, rfl⟩
    · split at h <;> cases h <;> exact ⟨rfl, rfl⟩

namespace Outline

variable {o : Outline}

theorem Nested.blankLine (h : o.Nested) : o.blankLine.Nested := by
  unfold Outline.blankLine
  split
  · exact h
  · split
    · exact ⟨h.close.spine, h.close.blocks⟩
    · exact ⟨h.spine, h.blocks⟩
  · exact ⟨h.spine, h.blocks⟩

theorem Nested.readLeaf (h : o.Nested) (m : Margin) : (o.readLeaf m).1.Nested := by
  obtain ⟨hfinish, htakes⟩ := h.finishList
  have hleaf {b : Block} (hb : b.IsLeaf) : (o.finishList.append b).Nested :=
    hfinish.append (hb.2.trans htakes.symm) (.of_inner_nil hb.1)
  unfold Outline.readLeaf
  dsimp only
  split
  · have hindented := hleaf (isLeaf_readIndented o.finishList.containers (m.takeUpTo 4).2.place
      (m.takeUpTo 4).2.spare)
    exact ⟨hindented.spine, hindented.blocks⟩
  · generalize Option.bind _ verbatimEnd? = stop
    cases stop with
    | some stop => exact hleaf ⟨rfl, rfl⟩
    | none =>
      generalize Option.getD _ false = opensElement
      dsimp only
      split
      · exact hleaf ⟨rfl, rfl⟩
      · split
        · exact hleaf ⟨rfl, rfl⟩
        · split
          · exact hleaf (isLeaf_readHeading _ _)
          · split
            · exact hleaf (isLeaf_readFenced _ _ _ _ _)
            · split
              · exact ⟨hfinish.spine, hfinish.blocks⟩
              · rename_i hprose
                exact hleaf (isLeaf_readProse hprose)

theorem Nested.step (h : o.Nested) (p : Place) : (o.step p).1.Nested := by
  have hopen := nested_openContainers (p.rest.length + 1)
    (h.closeN (o.spine.length - (continuedBy (.ofPlace p) o.containers).1))
    (continuedBy (.ofPlace p) o.containers).2
  unfold Outline.step
  dsimp only
  split
  · rename_i heq
    rw [heq] at hopen
    exact hopen
  · rename_i o' m heq
    rw [heq] at hopen
    split
    · exact hopen.blankLine
    · have hmoved : Nested { o' with bare := false } := ⟨hopen.spine, hopen.blocks⟩
      exact hmoved.readLeaf m

theorem Nested.run (fuel : Nat) (h : o.Nested) (p : Place) : (o.run fuel p).Nested := by
  induction fuel generalizing o p with
  | zero => exact h
  | succ fuel ih =>
    rw [Outline.run]
    split
    · exact h
    · exact ih (h.step p) _

theorem Nested.empty : empty.Nested := ⟨.nil, by simp [Outline.empty]⟩

end Outline

/-- Whatever a text is, its blocks are nested: no item stands outside a list. -/
theorem nested_readBlocks (text : List Char) :
    ∀ b ∈ (readBlocks text).1, b.isItem = false ∧ b.Nested := by
  have hrun := Outline.Nested.empty.run (text.length + 1) ⟨0, text⟩
  intro b hb
  exact (hrun.closeN _).blocks b (by simpa [readBlocks] using hb)

end Folio.Markdown
