import Mathlib.Data.List.Nodup
import Folio.Proofs.Document.Numbering
/-!
The identities of a document are the positions of its nodes in pre-order, whatever identities its nodes
had before (`Document.ofNodes_positions`). A walk with a stack meets them in ascending order, a node and
all below it have consecutive ones, and giving them out changes nothing else.
-/
set_option autoImplicit false

namespace Folio

namespace Node

/-- What a walk visits from a stack on, whose top is its last node. A visit takes the top off and puts
the children of that node there, the first of them last. -/
inductive Walks : List Node → List Node → Prop where
  | done : Walks [] []
  | visit {stack visited : List Node} (n : Node)
      (h : Walks (stack ++ n.children.reverse) visited) : Walks (stack ++ [n]) (n :: visited)

theorem preorderAll_cons (n : Node) (ns : List Node) :
    preorderAll (n :: ns) = n :: preorderAll (n.children ++ ns) := by
  obtain ⟨id, kind, children⟩ := n
  rw [preorderAll, preorder, preorderAll_append]
  rfl

/-- What is still to be visited is what the nodes of the stack hold, from its top down. -/
theorem Walks.eq_preorderAll {stack visited : List Node} (h : Walks stack visited) :
    visited = preorderAll stack.reverse := by
  induction h with
  | done => rfl
  | visit n h ih =>
    rw [List.reverse_append, List.reverse_reverse] at ih
    rw [List.reverse_append, List.reverse_singleton, List.singleton_append, preorderAll_cons, ih]

theorem sizeAll_cons (n : Node) (ns : List Node) :
    sizeAll (n :: ns) = sizeAll (n.children ++ ns) + 1 := by
  obtain ⟨id, kind, children⟩ := n
  rw [sizeAll, size, sizeAll_append, children_mk]
  omega

/-- A walk comes to its end: each visit leaves one node less below those of the stack. -/
theorem walks_preorderAll (ns : List Node) : Walks ns.reverse (preorderAll ns) := by
  induction hsize : sizeAll ns generalizing ns with
  | zero =>
    cases ns with
    | nil => exact .done
    | cons n ns =>
      rw [sizeAll_cons] at hsize
      omega
  | succ k ih =>
    cases ns with
    | nil => cases hsize
    | cons n ns =>
      rw [sizeAll_cons] at hsize
      have hrest := ih (n.children ++ ns) (by omega)
      rw [List.reverse_append] at hrest
      rw [List.reverse_cons, preorderAll_cons]
      exact .visit n hrest

theorem walks_iff {stack visited : List Node} :
    Walks stack visited ↔ visited = preorderAll stack.reverse := by
  refine ⟨Walks.eq_preorderAll, ?_⟩
  rintro rfl
  have hwalk := walks_preorderAll stack.reverse
  rwa [List.reverse_reverse] at hwalk

mutual

theorem length_preorder : (n : Node) → n.preorder.length = n.size
  | mk _ _ children => by rw [preorder, List.length_cons, length_preorderAll children, size]

theorem length_preorderAll : (ns : List Node) → (preorderAll ns).length = sizeAll ns
  | [] => rfl
  | n :: ns => by
    rw [preorderAll, List.length_append, length_preorder n, length_preorderAll ns, sizeAll]

end

mutual

theorem infix_preorder {n : Node} : (t : Node) → n ∈ t.preorder → n.preorder <:+: t.preorder
  | mk _ _ children, h => by
    rw [preorder] at h ⊢
    rcases List.mem_cons.1 h with rfl | h
    · exact List.infix_refl _
    · exact (infix_preorderAll children h).trans (List.suffix_cons _ _).isInfix

theorem infix_preorderAll {n : Node} : (ts : List Node) → n ∈ preorderAll ts →
    n.preorder <:+: preorderAll ts
  | t :: ts, h => by
    rw [preorderAll] at h ⊢
    rcases List.mem_append.1 h with h | h
    · exact (infix_preorder t h).trans (List.prefix_append _ _).isInfix
    · exact (infix_preorderAll ts h).trans (List.suffix_append _ _).isInfix

end

section

variable {ns : List Node} (h : ns.map id = List.range ns.length)

include h

theorem id_of_getElem? {n : Node} {i : Nat} (hn : ns[i]? = some n) : n.id = i := by
  obtain ⟨hi, -⟩ := List.getElem?_eq_some_iff.1 hn
  have hid : (ns.map id)[i]? = some n.id := by rw [List.getElem?_map, hn, Option.map_some]
  rw [h, List.getElem?_range hi] at hid
  exact (Option.some.inj hid).symm

/-- Looking for an identity is looking at that position. -/
theorem find?_id (i : Nat) : ns.find? (·.id == i) = ns[i]? := by
  have hid (j : Nat) (hj : j < ns.length) : ns[j].id = j := id_of_getElem? h (List.getElem?_eq_getElem hj)
  rcases Nat.lt_or_ge i ns.length with hi | hi
  · rw [List.getElem?_eq_getElem hi, List.find?_eq_some_iff_getElem]
    refine ⟨beq_iff_eq.2 (hid i hi), i, hi, rfl, fun j hj => ?_⟩
    rw [hid j (Nat.lt_trans hj hi), Bool.not_eq_true', beq_eq_false_iff_ne]
    exact Nat.ne_of_lt hj
  · rw [List.getElem?_eq_none hi, List.find?_eq_none]
    intro n hn
    obtain ⟨j, hj, rfl⟩ := List.getElem_of_mem hn
    rw [hid j hj, beq_iff_eq]
    omega

theorem preorder_eq_take {n : Node} (hn : n.preorder <:+: ns) :
    n.preorder = (ns.drop n.id).take n.size := by
  obtain ⟨before, behind, rfl⟩ := hn
  have hself : (before ++ n.preorder ++ behind)[before.length]? = some n := by
    cases n
    simp [preorder]
  rw [id_of_getElem? h hself, List.append_assoc, List.drop_left, ← length_preorder, List.take_left]

theorem ids_preorder {n : Node} (hn : n.preorder <:+: ns) :
    n.preorder.map id = List.range' n.id n.size := by
  have hlength : n.size ≤ ns.length - n.id := by
    have htake := congrArg List.length (preorder_eq_take h hn)
    rw [length_preorder, List.length_take, List.length_drop] at htake
    omega
  rw [preorder_eq_take h hn, List.map_take, List.map_drop, h, List.range_eq_range', List.drop_range',
    List.take_range'_of_length_ge hlength, Nat.zero_add, Nat.mul_one]

end

mutual

def unnumbered : Node → Node
  | mk _ kind children => new kind (unnumberedAll children)

def unnumberedAll : List Node → List Node
  | [] => []
  | n :: ns => n.unnumbered :: unnumberedAll ns

end

mutual

theorem unnumbered_number (next : Nat) : (n : Node) → (n.number next).1.unnumbered = n.unnumbered
  | mk _ _ children => by
    rw [number, unnumbered, unnumbered, unnumberedAll_numberAll (next + 1) children]

theorem unnumberedAll_numberAll (next : Nat) : (ns : List Node) →
    unnumberedAll (numberAll next ns).1 = unnumberedAll ns
  | [] => rfl
  | n :: ns => by
    rw [numberAll, unnumberedAll, unnumberedAll, unnumbered_number next n,
      unnumberedAll_numberAll _ ns]

end

end Node

namespace Document

theorem length_nodes (d : Document) : d.nodes.length = d.size := by
  rw [nodes, Node.descendants_eq_preorder, Node.length_preorder, size]

theorem ids_nodes (ns : List Node) :
    (ofNodes ns).nodes.map Node.id = List.range (ofNodes ns).nodes.length := by
  have hids := ids_ofNodes ns
  have hlength := congrArg List.length hids
  rw [List.length_map, List.length_range'] at hlength
  rw [hids, hlength, List.range_eq_range']

/-- Identities are positions in pre-order. The walk from the root on meets every node once, before its
children, and so meets the identities from zero on, one after the other, as many as were given out; a
look-up finds the node at that position; a node and all below it are one stretch of the walk; and kinds
and shape are those of the nodes that the document was made of. -/
theorem ofNodes_positions (ns : List Node) :
    let d := ofNodes ns
    (d.nodes.map Node.id = List.range d.size ∧ ((Node.new .document ns).number 0).2 = d.size) ∧
      (d.nodes = d.root.preorder ∧ d.nodes.Nodup ∧
        ∀ visited, Node.Walks [d.root] visited ↔ visited = d.nodes) ∧
      (∀ i, d.find? i = d.nodes[i]? ∧ ((d.find? i).isSome ↔ i < d.size)) ∧
      (∀ n ∈ d.nodes, n.descendants = (d.nodes.drop n.id).take n.size ∧
        n.descendants.map Node.id = List.range' n.id n.size) ∧
      d.root.unnumbered = (Node.new .document ns).unnumbered := by
  intro d
  have hpreorder : d.nodes = d.root.preorder := Node.descendants_eq_preorder d.root
  have hlength : d.nodes.length = d.size := length_nodes d
  obtain ⟨hnumbers, hnext⟩ := Node.ids_number 0 (Node.new .document ns)
  have hshape : d.root.unnumbered = (Node.new .document ns).unnumbered :=
    Node.unnumbered_number 0 (Node.new .document ns)
  have hids : d.nodes.map Node.id = List.range d.nodes.length := ids_nodes ns
  have hafter : ((Node.new .document ns).number 0).2 = d.size := by
    have hcount := congrArg List.length hnumbers
    rw [List.length_map, List.length_range', Node.length_preorder] at hcount
    rw [hnext, Nat.zero_add]
    exact hcount.symm
  have hfind (i : Nat) : d.find? i = d.nodes[i]? := Node.find?_id hids i
  refine ⟨⟨hlength ▸ hids, hafter⟩, ⟨hpreorder, ?_, fun visited => ?_⟩,
    fun i => ⟨hfind i, ?_⟩, fun n hn => ?_, hshape⟩
  · exact List.Nodup.of_map Node.id (hids ▸ List.nodup_range)
  · rw [Node.walks_iff, hpreorder, List.reverse_singleton, Node.preorderAll, Node.preorderAll,
      List.append_nil]
  · rw [hfind, ← hlength, isSome_getElem?]
  · have hinfix : n.preorder <:+: d.nodes := by
      rw [hpreorder] at hn ⊢
      exact Node.infix_preorder d.root hn
    rw [Node.descendants_eq_preorder]
    exact ⟨Node.preorder_eq_take hids hinfix, Node.ids_preorder hids hinfix⟩

end Document

end Folio
