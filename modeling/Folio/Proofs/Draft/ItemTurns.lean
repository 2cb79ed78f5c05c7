import Folio.Proofs.Document.Outlined
import Folio.Proofs.Draft.Meaning
/-!
The turns of the items while their document is drafted. Each item has one, in the order of the tree
(`map_item_itemTurns`), with the number that its place in the list gives it (`itemTurns_number`), and what
is drafted in a turn follows what was drafted before it (`itemTurns_requests`).
-/
set_option autoImplicit false

namespace Folio

open Node (preorderAll)

structure ItemTurn where
  item : Node
  number : Option Nat
  before : Draft

def ItemTurn.after (s : Setting) (t : ItemTurn) : Draft := emitItems s t.number [t.item] t.before

mutual

/-- The turns of the items while a node is drafted. Only lists hold items. -/
def Node.itemTurns (s : Setting) : Node → Draft → List ItemTurn
  | .mk _ kind children, d =>
    match kind with
    | .document => itemTurnsOfAll s children d
    | .list start => itemTurnsOfItems s start children d
    | _ => []

def itemTurnsOfAll (s : Setting) : List Node → Draft → List ItemTurn
  | [], _ => []
  | n :: ns, d => n.itemTurns s d ++ itemTurnsOfAll s ns (n.emit s d)

def itemTurnsOfItems (s : Setting) (number : Option Nat) : List Node → Draft → List ItemTurn
  | [], _ => []
  | .mk id kind children :: ns, d =>
    ⟨.mk id kind children, number, d⟩ ::
      (itemTurnsOfAll s children (d.insert (s.itemMark number)) ++
        itemTurnsOfItems s (number.map (· + 1)) ns (emitAll s children (d.insert (s.itemMark number))))

end

def Document.itemTurns (doc : Document) (s : Setting) : List ItemTurn := doc.root.itemTurns s .empty

section

variable {s : Setting} {t : ItemTurn} {d e : Draft}

theorem Writes.requests_kept {ps : List Piece} (h : Writes s ps d e) : d.requests <+: e.requests := by
  obtain ⟨-, -, rs, hrs, -⟩ := h
  exact ⟨rs, hrs.symm⟩

theorem writes_emitItems (s : Setting) (number : Option Nat) (ns : List Node) (d : Draft) :
    Writes s (itemPieces s [] number 0 ns) d (emitItems s number ns d) := by
  simpa using emitItems_writes s number 0 ns d

mutual

theorem itemTurns_requests : (n : Node) → (d : Draft) → t ∈ n.itemTurns s d →
    (t.after s).requests <+: (n.emit s d).requests
  | .mk id kind children, d, h => by
    cases kind with
    | document =>
      rw [Node.emit]
      exact itemTurnsOfAll_requests children d h
    | list start =>
      rw [Node.emit]
      exact itemTurnsOfItems_requests start children d h
    | _ => cases h

theorem itemTurnsOfAll_requests : (ns : List Node) → (d : Draft) → t ∈ itemTurnsOfAll s ns d →
    (t.after s).requests <+: (emitAll s ns d).requests
  | [], _, h => nomatch h
  | n :: ns, d, h => by
    rw [itemTurnsOfAll] at h
    rw [emitAll]
    rcases List.mem_append.1 h with h | h
    · exact (itemTurns_requests n d h).trans (emitAll_writes s ns _).requests_kept
    · exact itemTurnsOfAll_requests ns _ h

theorem itemTurnsOfItems_requests (number : Option Nat) : (ns : List Node) → (d : Draft) →
    t ∈ itemTurnsOfItems s number ns d → (t.after s).requests <+: (emitItems s number ns d).requests
  | [], _, h => nomatch h
  | .mk id kind children :: ns, d, h => by
    rw [itemTurnsOfItems] at h
    rw [emitItems]
    have hothers := (writes_emitItems s (number.map (· + 1)) ns
      (emitAll s children (d.insert (s.itemMark number)))).requests_kept
    rcases List.mem_cons.1 h with rfl | h
    · simpa only [ItemTurn.after, emitItems] using hothers
    rcases List.mem_append.1 h with h | h
    · exact (itemTurnsOfAll_requests children _ h).trans hothers
    · exact itemTurnsOfItems_requests _ ns _ h

end

end

def items (ns : List Node) : List Node := ns.filter (·.kind == .listItem)

theorem items_append (ns ms : List Node) : items (ns ++ ms) = items ns ++ items ms :=
  List.filter_append ..

def Kind.holdsBlocks : Kind → Bool
  | .document | .list _ | .listItem => true
  | _ => false

theorem isTablePart_below {id : Nat} {kind : Kind} {children : List Node}
    (hself : (Node.mk id kind children).isOutlined = true) (hbelow : Outlined (preorderAll children))
    (hkind : kind.holdsBlocks = false) : ∀ n ∈ preorderAll children, n.kind.isTablePart = true := by
  cases kind with
  | document | list | listItem => cases hkind
  | text | inlineCode | image | code =>
    obtain rfl : children = [] := List.isEmpty_iff.1 hself
    exact List.forall_mem_nil _
  | _ => exact parts_preorderAll children (List.all_eq_true.1 hself) hbelow

theorem kind_ne_listItem {p : Kind → Bool} (hp : p .listItem = false) {ns : List Node}
    (h : ns.all (p ·.kind) = true) : ∀ n ∈ ns, n.kind ≠ .listItem := by
  intro n hn hlist
  have hkind := List.all_eq_true.1 h n hn
  rw [hlist, hp] at hkind
  cases hkind

mutual

/-- Each item of the tree has one turn, in the order of the tree. -/
theorem map_item_itemTurns (s : Setting) : (n : Node) → n.kind ≠ .listItem → Outlined n.preorder →
    (d : Draft) → (n.itemTurns s d).map ItemTurn.item = items n.preorder
  | .mk id kind children, hkind, houtlined, d => by
    rw [Node.preorder, Outlined.cons] at houtlined
    rw [Node.preorder, items, List.filter_cons_of_neg (by simpa using hkind)]
    cases kind with
    | document =>
      exact map_item_itemTurnsOfAll s children
        (kind_ne_listItem (p := fun kind => kind.isBlock || kind.isInline) rfl houtlined.1) houtlined.2 d
    | list start =>
      exact map_item_itemTurnsOfItems s start children (by simpa [Node.isOutlined] using houtlined.1)
        houtlined.2 d
    | listItem => exact absurd rfl hkind
    | _ =>
      have hparts := isTablePart_below houtlined.1 houtlined.2 rfl
      refine (List.filter_eq_nil_iff.2 fun n hn hitem => ?_).symm
      have hpart := hparts n hn
      rw [beq_iff_eq.1 hitem] at hpart
      cases hpart

theorem map_item_itemTurnsOfAll (s : Setting) : (ns : List Node) → (∀ n ∈ ns, n.kind ≠ .listItem) →
    Outlined (preorderAll ns) → (d : Draft) →
      (itemTurnsOfAll s ns d).map ItemTurn.item = items (preorderAll ns)
  | [], _, _, _ => rfl
  | n :: ns, hkinds, houtlined, d => by
    rw [preorderAll, Outlined.append] at houtlined
    obtain ⟨hkind, hothers⟩ := List.forall_mem_cons.1 hkinds
    rw [itemTurnsOfAll, List.map_append, preorderAll, items_append, map_item_itemTurns s n hkind houtlined.1,
      map_item_itemTurnsOfAll s ns hothers houtlined.2]

theorem map_item_itemTurnsOfItems (s : Setting) (number : Option Nat) : (ns : List Node) →
    (∀ n ∈ ns, n.kind = .listItem) → Outlined (preorderAll ns) → (d : Draft) →
      (itemTurnsOfItems s number ns d).map ItemTurn.item = items (preorderAll ns)
  | [], _, _, _ => rfl
  | .mk id kind children :: ns, hkinds, houtlined, d => by
    obtain ⟨hkind, hothers⟩ := List.forall_mem_cons.1 hkinds
    obtain rfl : kind = .listItem := hkind
    rw [preorderAll, Outlined.append, Node.preorder, Outlined.cons] at houtlined
    have hblocks := kind_ne_listItem (p := Kind.isBlock) rfl houtlined.1.1
    rw [itemTurnsOfItems, List.map_cons, List.map_append, preorderAll, items_append,
      map_item_itemTurnsOfAll s children hblocks houtlined.1.2,
      map_item_itemTurnsOfItems s _ ns hothers houtlined.2]
    rfl

end

theorem mem_itemTurnsOfItems (s : Setting) (number : Option Nat) {item : Node} {k : Nat} {ns : List Node}
    (h : ns[k]? = some item) (d : Draft) :
    ∃ before, ⟨item, number.map (· + k), before⟩ ∈ itemTurnsOfItems s number ns d := by
  induction ns generalizing number k d with
  | nil => cases h
  | cons n ns ih =>
    obtain ⟨id, kind, children⟩ := n
    rw [itemTurnsOfItems]
    cases k with
    | zero =>
      obtain rfl : Node.mk id kind children = item := by simpa using h
      exact ⟨d, by simp⟩
    | succ k =>
      obtain ⟨before, hmem⟩ := ih (number.map (· + 1)) (by simpa using h)
        (emitAll s children (d.insert (s.itemMark number)))
      have hnumber : (number.map (· + 1)).map (· + k) = number.map (· + (k + 1)) := by
        cases number with
        | none => rfl
        | some n => exact congrArg some (by dsimp only; omega)
      rw [hnumber] at hmem
      exact ⟨before, List.mem_cons_of_mem _ (List.mem_append_right _ hmem)⟩

section

variable {s : Setting} {list item : Node} {start : Option Nat} {k : Nat}

mutual

theorem itemTurns_number (hlist : list.kind = .list start) (hitem : list.children[k]? = some item) :
    (n : Node) → n.kind ≠ .listItem → Outlined n.preorder → list ∈ n.preorder → (d : Draft) →
      ∃ before, ⟨item, start.map (· + k), before⟩ ∈ n.itemTurns s d
  | .mk id kind children, hkind, houtlined, hmem, d => by
    rw [Node.preorder] at houtlined hmem
    rw [Outlined.cons] at houtlined
    rcases List.mem_cons.1 hmem with rfl | hbelow
    · obtain rfl : kind = .list start := hlist
      exact mem_itemTurnsOfItems s start hitem d
    cases kind with
    | document =>
      exact itemTurnsOfAll_number hlist hitem children
        (kind_ne_listItem (p := fun kind => kind.isBlock || kind.isInline) rfl houtlined.1) houtlined.2 hbelow d
    | list start' =>
      exact itemTurnsOfItems_number hlist hitem start' children
        (by simpa [Node.isOutlined] using houtlined.1) houtlined.2 hbelow d
    | listItem => exact absurd rfl hkind
    | _ =>
      have hpart := isTablePart_below houtlined.1 houtlined.2 rfl list hbelow
      rw [hlist] at hpart
      cases hpart

theorem itemTurnsOfAll_number (hlist : list.kind = .list start) (hitem : list.children[k]? = some item) :
    (ns : List Node) → (∀ n ∈ ns, n.kind ≠ .listItem) → Outlined (preorderAll ns) →
      list ∈ preorderAll ns → (d : Draft) →
        ∃ before, ⟨item, start.map (· + k), before⟩ ∈ itemTurnsOfAll s ns d
  | [], _, _, hmem, _ => nomatch hmem
  | n :: ns, hkinds, houtlined, hmem, d => by
    rw [preorderAll, Outlined.append] at houtlined
    obtain ⟨hkind, hothers⟩ := List.forall_mem_cons.1 hkinds
    rw [itemTurnsOfAll]
    rcases List.mem_append.1 hmem with hmem | hmem
    · obtain ⟨before, h⟩ := itemTurns_number hlist hitem n hkind houtlined.1 hmem d
      exact ⟨before, List.mem_append_left _ h⟩
    · obtain ⟨before, h⟩ := itemTurnsOfAll_number hlist hitem ns hothers houtlined.2 hmem (n.emit s d)
      exact ⟨before, List.mem_append_right _ h⟩

theorem itemTurnsOfItems_number (hlist : list.kind = .list start) (hitem : list.children[k]? = some item)
    (number : Option Nat) : (ns : List Node) → (∀ n ∈ ns, n.kind = .listItem) →
      Outlined (preorderAll ns) → list ∈ preorderAll ns → (d : Draft) →
        ∃ before, ⟨item, start.map (· + k), before⟩ ∈ itemTurnsOfItems s number ns d
  | [], _, _, hmem, _ => nomatch hmem
  | .mk id kind children :: ns, hkinds, houtlined, hmem, d => by
    obtain ⟨hkind, hothers⟩ := List.forall_mem_cons.1 hkinds
    obtain rfl : kind = .listItem := hkind
    rw [preorderAll, Node.preorder] at hmem
    rw [preorderAll, Outlined.append, Node.preorder, Outlined.cons] at houtlined
    have hblocks := kind_ne_listItem (p := Kind.isBlock) rfl houtlined.1.1
    rw [itemTurnsOfItems]
    rcases List.mem_append.1 hmem with hmem | hmem
    · rcases List.mem_cons.1 hmem with rfl | hmem
      · cases hlist
      obtain ⟨before, h⟩ := itemTurnsOfAll_number hlist hitem children hblocks houtlined.1.2 hmem
        (d.insert (s.itemMark number))
      exact ⟨before, List.mem_cons_of_mem _ (List.mem_append_left _ h)⟩
    · obtain ⟨before, h⟩ := itemTurnsOfItems_number hlist hitem (number.map (· + 1)) ns hothers
        houtlined.2 hmem (emitAll s children (d.insert (s.itemMark number)))
      exact ⟨before, List.mem_cons_of_mem _ (List.mem_append_right _ h)⟩

end

end

end Folio
