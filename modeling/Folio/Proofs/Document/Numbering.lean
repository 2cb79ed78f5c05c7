import Folio.Asset.Target
/-!
The identities that a finished document gives to its nodes are their positions in pre-order
(`Document.ids_ofNodes`), so no two nodes share one, and no two targets do. What is true of all nodes
whatever their identities stays true when these are given out (`Node.IgnoresIds.number`).
-/
set_option autoImplicit false

namespace Folio

namespace Node

mutual

theorem ids_number (next : Nat) : (n : Node) →
    (n.number next).1.preorder.map id = List.range' next n.size ∧
      (n.number next).2 = next + n.size
  | mk _ k cs => by
    obtain ⟨hids, hnext⟩ := ids_numberAll (next + 1) cs
    simp only [number, preorder, List.map_cons, id_mk, hids, hnext, size]
    exact ⟨(List.range'_succ).symm, by omega⟩

theorem ids_numberAll (next : Nat) : (ns : List Node) →
    (preorderAll (numberAll next ns).1).map id = List.range' next (sizeAll ns) ∧
      (numberAll next ns).2 = next + sizeAll ns
  | [] => ⟨rfl, rfl⟩
  | n :: ns => by
    obtain ⟨hids, hnext⟩ := ids_number next n
    obtain ⟨hidsAll, hnextAll⟩ := ids_numberAll (next + n.size) ns
    simp only [numberAll, preorderAll, List.map_append, hids, hnext, hidsAll, hnextAll, sizeAll]
    exact ⟨List.range'_append_1, by omega⟩

end

theorem kinds_numberAll (next : Nat) (ns : List Node) :
    (numberAll next ns).1.map kind = ns.map kind := by
  induction ns generalizing next with
  | nil => rfl
  | cons n ns ih =>
    obtain ⟨id, kind, children⟩ := n
    rw [numberAll, List.map_cons, List.map_cons, ih]
    rfl

theorem length_numberAll (next : Nat) (ns : List Node) :
    (numberAll next ns).1.length = ns.length := by
  have hkinds := congrArg List.length (kinds_numberAll next ns)
  rwa [List.length_map, List.length_map] at hkinds

/-- A property that a node keeps when identities are given out to it and below it. -/
def IgnoresIds (P : Node → Prop) : Prop :=
  ∀ (id next : Nat) (kind : Kind) (children : List Node),
    P (mk id kind children) → P (mk next kind (numberAll (next + 1) children).1)

mutual

theorem IgnoresIds.number {P : Node → Prop} (hP : IgnoresIds P) (next : Nat) : (n : Node) →
    (∀ m ∈ n.preorder, P m) → ∀ m ∈ (n.number next).1.preorder, P m
  | mk id kind children, h => by
    rw [preorder, List.forall_mem_cons] at h
    rw [Node.number, preorder, List.forall_mem_cons]
    exact ⟨hP id next kind children h.1, hP.numberAll (next + 1) children h.2⟩

theorem IgnoresIds.numberAll {P : Node → Prop} (hP : IgnoresIds P) (next : Nat) : (ns : List Node) →
    (∀ m ∈ preorderAll ns, P m) → ∀ m ∈ preorderAll (Node.numberAll next ns).1, P m
  | [], h => h
  | n :: ns, h => by
    rw [preorderAll, List.forall_mem_append] at h
    rw [Node.numberAll, preorderAll, List.forall_mem_append]
    exact ⟨hP.number next n h.1, hP.numberAll _ ns h.2⟩

end

theorem id_of_target? {options : ExportOptions} {n : Node} {t : AssetTarget}
    (h : n.target? options = some t) : t.id = n.id := by
  simp only [target?] at h
  split at h
  · split at h
    · cases h
      rfl
    · cases h
  · split at h
    · cases h
      rfl
    · cases h
  · cases h

end Node

namespace Document

theorem ids_ofNodes (ns : List Node) :
    (ofNodes ns).nodes.map Node.id = List.range' 0 (Node.sizeAll ns + 1) := by
  rw [nodes, Node.descendants_eq_preorder]
  exact (Node.ids_number 0 (Node.new .document ns)).1

@[simp] theorem nodes_withSource (d : Document) (source : String) :
    (d.withSource source).nodes = d.nodes := rfl

theorem nodup_ids (ns : List Node) (source : String) :
    (((ofNodes ns).withSource source).nodes.map Node.id).Nodup := by
  rw [nodes_withSource, ids_ofNodes]
  exact List.nodup_range'

theorem targets_sublist (d : Document) (options : ExportOptions) :
    ((d.targets options).map (·.id)).Sublist (d.nodes.map Node.id) := by
  rw [targets]
  induction d.nodes with
  | nil => exact .slnil
  | cons n ns ih =>
    rw [List.filterMap_cons]
    split
    · exact ih.cons _
    · rename_i t ht
      rw [List.map_cons, List.map_cons, Node.id_of_target? ht]
      exact ih.cons_cons _

theorem nodup_targets (ns : List Node) (source : String) (options : ExportOptions) :
    ((((ofNodes ns).withSource source).targets options).map (·.id)).Nodup :=
  (targets_sublist _ options).nodup (nodup_ids ns source)

end Document

end Folio
