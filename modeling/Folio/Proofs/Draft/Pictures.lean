import Mathlib.Data.List.Nodup
import Folio.Proofs.Document.Numbering
import Folio.Proofs.Document.Shaped
import Folio.Proofs.Draft.Steps
/-!
Which pictures a draft has. The targets of a document and the drafting of its tree are two ways through
the same nodes; they agree on what is a picture, where it stands and for which node
(`compile_pictures`).
-/
set_option autoImplicit false

namespace Folio

open Edit
open Node (preorderAll)

def Edit.Request.uri? : Request → Option String
  | .insertImage _ uri _ => some uri
  | _ => none

mutual

def Node.placed (below : Bool) : Node → List (Node × Bool)
  | .mk id kind children =>
    (.mk id kind children, below) :: placedAll (below || kind.isTable) children

def placedAll (below : Bool) : List Node → List (Node × Bool)
  | [] => []
  | n :: ns => n.placed below ++ placedAll below ns

end

mutual

theorem placed_nodes (below : Bool) : (n : Node) → (n.placed below).map Prod.fst = n.preorder
  | .mk id kind children => by
    simp only [Node.placed, List.map_cons, placedAll_nodes, Node.preorder]

theorem placedAll_nodes (below : Bool) :
    (ns : List Node) → (placedAll below ns).map Prod.fst = preorderAll ns
  | [] => rfl
  | n :: ns => by
    simp only [placedAll, List.map_append, placed_nodes below n, placedAll_nodes below ns,
      preorderAll]

end

mutual

theorem placed_below : (n : Node) → ∀ x ∈ n.placed true, x.2 = true
  | .mk id kind children => by
    rw [Node.placed, Bool.true_or]
    exact List.forall_mem_cons.2 ⟨rfl, placedAll_below children⟩

theorem placedAll_below : (ns : List Node) → ∀ x ∈ placedAll true ns, x.2 = true
  | [] => by simp [placedAll]
  | n :: ns => List.forall_mem_append.2 ⟨placed_below n, placedAll_below ns⟩

end

/-- The picture of a node, with the node that it stands for: the address of a target, if it has one,
or an address that the text gives, unless the node is below a table. -/
def picture? (assets : AssetMap) (options : ExportOptions) (x : Node × Bool) :
    Option (Nat × String) :=
  match x.1.target? options with
  | some t => (assets.get? t.id).map (t.id, ·)
  | none =>
    match x.1.kind with
    | .image url _ => if !x.2 && Web.isAbsoluteUrl url then some (x.1.id, url) else none
    | _ => none

/-- The pictures of a document in pre-order. -/
def Document.pictures (d : Document) (assets : AssetMap) (options : ExportOptions) :
    List (Nat × String) :=
  (d.root.placed false).filterMap (picture? assets options)

namespace Draft

def uris (d : Draft) : List String := d.requests.filterMap Request.uri?

@[simp] theorem uris_push (d : Draft) (r : Request) :
    (d.push r).uris = d.uris ++ r.uri?.toList := by
  simp only [uris, requests, push, List.reverse_cons, List.filterMap_append]
  cases h : r.uri? <;> simp [h]

theorem uris_moved (d : Draft) (c : Cursor) : uris { d with cursor := c } = d.uris := rfl

@[simp] theorem uris_insert (d : Draft) (text : String) : (d.insert text).uris = d.uris := by
  rw [insert]
  split
  · rfl
  · rw [uris_moved, uris_push]
    exact List.append_nil _

@[simp] theorem uris_terminate (d : Draft) : d.terminate.uris = d.uris := uris_insert d "\n"

@[simp] theorem uris_insertImage (d : Draft) (uri : String) (size : Option Size) :
    (d.insertImage uri size).uris = d.uris ++ [uri] := by
  rw [insertImage, uris_moved, uris_push]
  rfl

@[simp] theorem uris_styleSince (d : Draft) (start : Nat) (style : TextStyle) :
    (d.styleSince start style).uris = d.uris := by
  rw [styleSince]
  split
  · rfl
  · exact (uris_push d _).trans (List.append_nil _)

@[simp] theorem uris_headingSince (d : Draft) (start : Nat) (level : HeadingLevel) :
    (d.headingSince start level).uris = d.uris :=
  (uris_push d _).trans (List.append_nil _)

@[simp] theorem uris_planTable (d : Draft) (node : Node) : (d.planTable node).uris = d.uris := rfl

theorem uris_insertAsset (s : Setting) (id : Nat) (d : Draft) :
    (d.insertAsset s id).uris = d.uris ++ (s.assets.get? id).toList := by
  rw [insertAsset]
  split
  · rename_i uri h
    simp [h]
  · rename_i h
    simp [h]

/-- Only pictures add addresses. -/
theorem stepwise_uris : Stepwise fun d e => e.uris = d.uris :=
  ⟨fun _ => rfl, fun h h' => h'.trans h, uris_insert, fun style h => (uris_styleSince _ _ style).trans h⟩

theorem uris_insertTable (s : Setting) (node : Node) (d : Draft) :
    (d.insertTable s node).uris = d.uris ++
      if s.options.tableStrategy = .image then (s.assets.get? node.id).toList else [] := by
  rw [insertTable]
  cases s.options.tableStrategy with
  | native => simp [insertMarker]
  | image =>
    cases h : s.assets.get? node.id with
    | none => simp [stepwise_uris.insertRows]
    | some uri => simp [uris_insertAsset, h]

theorem uris_insertCode (s : Setting) (id : Nat) (lang : Option String) (value : String)
    (d : Draft) : (d.insertCode s id lang value).uris = d.uris ++
      if s.isDiagram lang then (s.assets.get? id).toList else [] := by
  rw [insertCode]
  split
  · exact uris_insertAsset s id d
  · dsimp only
    split
    · simp
    · simp [Request.text, Request.uri?]

end Draft

section

variable {assets : AssetMap} {options : ExportOptions}

theorem pictures_mk {id : Nat} {kind : Kind} {children : List Node}
    (h : picture? assets options (.mk id kind children, false) = none) (hkind : kind.isTable = false) :
    ((Node.mk id kind children).placed false).filterMap (picture? assets options) =
      (placedAll false children).filterMap (picture? assets options) := by
  rw [Node.placed, List.filterMap_cons_none h, hkind, Bool.or_self]

theorem picture?_of_tablePart {n : Node} (h : n.kind.isTablePart = true) :
    picture? assets options (n, true) = none := by
  obtain ⟨id, kind, children⟩ := n
  cases kind with
  | code lang value => cases h
  | table source => cases h
  | _ => rfl

theorem pictures_below {ns : List Node} (h : ∀ n ∈ preorderAll ns, n.kind.isTablePart = true) :
    (placedAll true ns).filterMap (picture? assets options) = [] := by
  rw [List.filterMap_eq_nil_iff]
  intro x hx
  have hnode : x.1 ∈ preorderAll ns := by
    rw [← placedAll_nodes true ns]
    exact List.mem_map_of_mem hx
  have hbelow : x = (x.1, true) := Prod.ext rfl (placedAll_below ns x hx)
  rw [hbelow]
  exact picture?_of_tablePart (h x.1 hnode)

end

section

variable (s : Setting)

theorem pictures_closed (id : Nat) (kind : Kind) {children : List Node}
    (h : (placedAll kind.isTable children).filterMap (picture? s.assets s.options) = []) :
    ((Node.mk id kind children).placed false).filterMap (picture? s.assets s.options) =
      (picture? s.assets s.options (.mk id kind children, false)).toList := by
  rw [Node.placed, List.filterMap_cons, Bool.false_or, h]
  cases picture? s.assets s.options (.mk id kind children, false) <;> rfl

theorem pictures_leaf (id : Nat) (kind : Kind) {children : List Node} (h : children.isEmpty) :
    ((Node.mk id kind children).placed false).filterMap (picture? s.assets s.options) =
      (picture? s.assets s.options (.mk id kind children, false)).toList := by
  refine pictures_closed s id kind ?_
  rw [List.isEmpty_iff.1 h]
  rfl

theorem picture?_code (id : Nat) (lang : Option String) (value : String) (children : List Node) :
    (picture? s.assets s.options (.mk id (.code lang value) children, false)).toList.map Prod.snd =
      if s.isDiagram lang then (s.assets.get? id).toList else [] := by
  cases lang with
  | none => rfl
  | some lang =>
    cases h : s.options.isDiagramLanguage lang with
    | false => simp [picture?, Node.target?, Setting.isDiagram, h]
    | true =>
      cases hid : s.assets.get? id <;> simp [picture?, Node.target?, Setting.isDiagram, h, hid]

theorem picture?_table (id : Nat) (source : String) (children : List Node) :
    (picture? s.assets s.options (.mk id (.table source) children, false)).toList.map Prod.snd =
      if s.options.tableStrategy = .image then (s.assets.get? id).toList else [] := by
  by_cases h : s.options.tableStrategy = .image
  · cases hid : s.assets.get? id <;> simp [picture?, Node.target?, h, hid]
  · simp [picture?, Node.target?, h]

mutual

theorem emit_uris : (n : Node) → n.isShaped → HoldParts n.preorder → (d : Draft) →
    (n.emit s d).uris = d.uris ++
      ((n.placed false).filterMap (picture? s.assets s.options)).map Prod.snd
  | .mk id kind children, hshaped, hparts, d => by
    rw [Node.isShaped, Bool.and_eq_true] at hshaped
    rw [Node.preorder, HoldParts.cons] at hparts
    have hall := emitAll_uris children hshaped.2 hparts.2
    cases kind with
    | list start =>
      rw [pictures_mk rfl rfl, Node.emit]
      exact emitItems_uris children start hshaped.2 (by simpa [Kind.admits] using hshaped.1)
        hparts.2 d
    | text value | inlineCode value =>
      rw [pictures_leaf s id _ hshaped.1]
      simp [Node.emit, picture?, Node.target?]
    | image url alt =>
      rw [pictures_leaf s id _ hshaped.1, Node.emit]
      split
      · rename_i h
        simp [picture?, Node.target?, h]
      · rename_i h
        simp [picture?, Node.target?, h]
    | code lang value =>
      rw [pictures_leaf s id _ hshaped.1, picture?_code, Node.emit]
      exact Draft.uris_insertCode s id lang value d
    | table source =>
      rw [pictures_closed s id _ (pictures_below (hparts.1 rfl)), picture?_table, Node.emit]
      exact Draft.uris_insertTable s _ d
    | heading depth =>
      rw [pictures_mk rfl rfl, Node.emit]
      split <;> simpa using hall d
    | paragraph | strong | emphasis | link url =>
      rw [pictures_mk rfl rfl, Node.emit]
      simpa using hall d
    | listItem =>
      rw [pictures_mk rfl rfl, Node.emit]
      simpa using hall (d.insert (s.itemMark none))
    | _ =>
      rw [pictures_mk rfl rfl, Node.emit]
      exact hall d

theorem emitAll_uris : (ns : List Node) → allShaped ns → HoldParts (preorderAll ns) →
    (d : Draft) → (emitAll s ns d).uris = d.uris ++
      ((placedAll false ns).filterMap (picture? s.assets s.options)).map Prod.snd
  | [], _, _, d => by simp [emitAll, placedAll]
  | n :: ns, hshaped, hparts, d => by
    rw [allShaped, Bool.and_eq_true] at hshaped
    rw [preorderAll, HoldParts.append] at hparts
    rw [emitAll, emitAll_uris ns hshaped.2 hparts.2, emit_uris n hshaped.1 hparts.1, placedAll,
      List.filterMap_append, List.map_append, List.append_assoc]

theorem emitItems_uris : (ns : List Node) → (number : Option Nat) → allShaped ns →
    (∀ n ∈ ns, n.kind = .listItem) → HoldParts (preorderAll ns) → (d : Draft) →
    (emitItems s number ns d).uris = d.uris ++
      ((placedAll false ns).filterMap (picture? s.assets s.options)).map Prod.snd
  | [], _, _, _, _, d => by simp [emitItems, placedAll]
  | .mk id kind children :: ns, number, hshaped, hitems, hparts, d => by
    rw [allShaped, Bool.and_eq_true, Node.isShaped, Bool.and_eq_true] at hshaped
    rw [List.forall_mem_cons] at hitems
    rw [preorderAll, HoldParts.append, Node.preorder, HoldParts.cons] at hparts
    have hkind : kind = .listItem := hitems.1
    subst hkind
    rw [emitItems, emitItems_uris ns _ hshaped.2 hitems.2 hparts.2,
      emitAll_uris children hshaped.1.2 hparts.1.2, Draft.uris_insert, placedAll,
      List.filterMap_append, List.map_append, List.append_assoc, pictures_mk rfl rfl]

end

end

section

variable {assets : AssetMap} {options : ExportOptions}

theorem fst_of_picture? {x : Node × Bool} {p : Nat × String}
    (h : picture? assets options x = some p) : p.1 = x.1.id := by
  simp only [picture?] at h
  split at h
  · rename_i t ht
    obtain ⟨url, -, rfl⟩ := Option.map_eq_some_iff.1 h
    exact Node.id_of_target? ht
  · split at h
    · split at h
      · cases h
        rfl
      · cases h
    · cases h

theorem map_fst_sublist (xs : List (Node × Bool)) :
    ((xs.filterMap (picture? assets options)).map Prod.fst).Sublist (xs.map (·.1.id)) := by
  induction xs with
  | nil => exact .slnil
  | cons x xs ih =>
    rw [List.filterMap_cons]
    split
    · exact ih.cons _
    · rename_i p hp
      rw [List.map_cons, List.map_cons, fst_of_picture? hp]
      exact ih.cons_cons _

theorem filter_pictures {xs : List (Node × Bool)} (hids : (xs.map (·.1.id)).Nodup)
    {x : Node × Bool} (hx : x ∈ xs) :
    (xs.filterMap (picture? assets options)).filter (·.1 == x.1.id) =
      (picture? assets options x).toList := by
  obtain ⟨front, back, rfl⟩ := List.append_of_mem hx
  rw [List.map_append, List.map_cons, List.nodup_middle, List.nodup_cons, ← List.map_append] at hids
  have hothers : ∀ ys : List (Node × Bool), (∀ y ∈ ys, y ∈ front ++ back) →
      (ys.filterMap (picture? assets options)).filter (·.1 == x.1.id) = [] := by
    intro ys hys
    rw [List.filter_eq_nil_iff]
    intro p hp hid
    obtain ⟨y, hy, hpy⟩ := List.mem_filterMap.1 hp
    have heq : y.1.id = x.1.id := (fst_of_picture? hpy).symm.trans (by simpa using hid)
    exact hids.1 (List.mem_map.2 ⟨y, hys y hy, heq⟩)
  rw [List.filterMap_append, List.filter_append, List.filterMap_cons,
    hothers front fun y hy => List.mem_append_left _ hy]
  have hback := hothers back fun y hy => List.mem_append_right _ hy
  cases hp : picture? assets options x with
  | none => exact hback
  | some p =>
    have hid : (p.1 == x.1.id) = true := by simp [fst_of_picture? hp]
    simp [hid, hback]

end

theorem placed_root (d : Document) : (d.root.placed false).map Prod.fst = d.nodes := by
  rw [placed_nodes, Document.nodes, Node.descendants_eq_preorder]

/-- The images of a draft are the pictures of its document, in pre-order. Each target has its own one
exactly if it has an address. -/
theorem compile_pictures {ns : List Node} {source : String} (assets : AssetMap)
    (options : ExportOptions) (hshaped : ((Document.ofNodes ns).withSource source).root.isShaped)
    (hparts : HoldParts ((Document.ofNodes ns).withSource source).nodes) :
    (((Document.ofNodes ns).withSource source).compile assets options).requests.filterMap
        Request.uri? =
      (((Document.ofNodes ns).withSource source).pictures assets options).map Prod.snd ∧
    ((((Document.ofNodes ns).withSource source).pictures assets options).map Prod.fst).Sublist
      (((Document.ofNodes ns).withSource source).nodes.map Node.id) ∧
    ∀ t ∈ ((Document.ofNodes ns).withSource source).targets options,
      (((Document.ofNodes ns).withSource source).pictures assets options).filter (·.1 == t.id) =
        (assets.get? t.id).toList.map (t.id, ·) := by
  have hids := Document.nodup_ids ns source
  generalize (Document.ofNodes ns).withSource source = doc at *
  have hplaced : (doc.root.placed false).map (·.1.id) = doc.nodes.map Node.id := by
    rw [← placed_root, List.map_map]
    rfl
  refine ⟨?_, ?_, ?_⟩
  · rw [Document.nodes, Node.descendants_eq_preorder] at hparts
    exact emit_uris ⟨doc.fingerprint, assets, options⟩ doc.root hshaped hparts .empty
  · rw [← hplaced]
    exact map_fst_sublist _
  · intro t ht
    obtain ⟨n, hn, htarget⟩ := List.mem_filterMap.1 ht
    rw [← placed_root] at hn
    obtain ⟨x, hx, rfl⟩ := List.mem_map.1 hn
    have hid : t.id = x.1.id := Node.id_of_target? htarget
    rw [Document.pictures, hid, filter_pictures (hplaced ▸ hids) hx]
    simp only [picture?, htarget, hid]
    cases assets.get? x.1.id <;> rfl

def mixedPictures : List Node :=
  [.new .paragraph [.leaf (.image "https://a.test/p.png" "P"), .leaf (.image "p.png" "Q")],
    .new (.list none) [.new .listItem [.leaf (.code (some "Mermaid") "graph")]],
    .new (.table "| A |") [.new .tableRow [.new .tableCell
      [.leaf (.image "https://a.test/q.png" "Q")]]],
    .leaf (.code (some "mermaid") "pie")]

def mixedOptions : ExportOptions := { ExportOptions.default with tableStrategy := .image }

theorem compile_pictures_mixed :
    ((Document.ofNodes mixedPictures).withSource "").root.isShaped = true ∧
    HoldParts ((Document.ofNodes mixedPictures).withSource "").nodes ∧
    (((Document.ofNodes mixedPictures).withSource "").compile ⟨[(6, "https://cdn.test/6.png")]⟩
        mixedOptions).requests.filterMap Request.uri? =
      ["https://a.test/p.png", "https://cdn.test/6.png"] := by
  have hshaped : ((Document.ofNodes mixedPictures).withSource "").root.isShaped := by decide +kernel
  have hparts : HoldParts ((Document.ofNodes mixedPictures).withSource "").nodes := by
    decide +kernel
  have hpictures : ((Document.ofNodes mixedPictures).withSource "").pictures
      ⟨[(6, "https://cdn.test/6.png")]⟩ mixedOptions =
      [(2, "https://a.test/p.png"), (6, "https://cdn.test/6.png")] := by decide +kernel
  refine ⟨hshaped, hparts, ?_⟩
  rw [(compile_pictures _ _ hshaped hparts).1, hpictures]
  rfl

end Folio
