import Folio.Proofs.Draft.Pictures
import Folio.Proofs.Draft.Steps
import Folio.Proofs.Table.Marking
import Folio.Proofs.Table.Sites
/-!
Which node each request of a draft was issued for. For the tables that are below no other table
these are exactly their markers, numbered in the order of the document, each with a line feed right
behind it, and the plans have the same numbers; without native tables no marker is issued at all
(`compile_issues`). An ordinal is the number of plans so far, so what carries the induction is where
drafting stands before and after a node (`Drafts`).
-/
set_option autoImplicit false

namespace Folio

open Edit
open Node (preorderAll)

structure Issue where
  node : Node
  request : Request

def Node.issued (n : Node) (d e : Draft) : List Issue :=
  (e.requests.drop d.requests.length).map (⟨n, ·⟩)

mutual

/-- The requests for a node and all below it, in order. A request is issued for the node that puts
it into the draft itself, be it before or behind its children. -/
def Node.issues (s : Setting) : Node → Draft → List Issue
  | .mk id kind children, d =>
    let n := Node.mk id kind children
    match kind with
    | .list start => issuesOfItems s start children d
    | .listItem =>
      let e := d.insert (s.itemMark none)
      n.issued d e ++ issuesAll s children e
    | .text _ | .inlineCode _ | .image .. | .code .. | .table _ => n.issued d (n.emit s d)
    | _ => issuesAll s children d ++ n.issued (emitAll s children d) (n.emit s d)

def issuesAll (s : Setting) : List Node → Draft → List Issue
  | [], _ => []
  | n :: ns, d => n.issues s d ++ issuesAll s ns (n.emit s d)

def issuesOfItems (s : Setting) (number : Option Nat) : List Node → Draft → List Issue
  | [], _ => []
  | .mk id kind children :: ns, d =>
    let e := d.insert (s.itemMark number)
    (Node.mk id kind children).issued d e ++ issuesAll s children e ++
      issuesOfItems s (number.map (· + 1)) ns (emitAll s children e)

end

def Document.issues (doc : Document) (assets : AssetMap) (options : ExportOptions) : List Issue :=
  doc.root.issues ⟨doc.fingerprint, assets, options⟩ .empty

/-- Picks the tables out of nodes, each of which comes with whether it is below a table. -/
def outermost (placed : List (Node × Bool)) : List Node :=
  (placed.filter fun x => x.1.kind.isTable && !x.2).map Prod.fst

def Document.outerTables (doc : Document) : List Node := outermost (doc.root.placed false)

theorem outermost_append (xs ys : List (Node × Bool)) :
    outermost (xs ++ ys) = outermost xs ++ outermost ys := by
  simp only [outermost, List.filter_append, List.map_append]

theorem outermost_of_below {xs : List (Node × Bool)} (h : ∀ x ∈ xs, x.2 = true) :
    outermost xs = [] := by
  rw [outermost, List.map_eq_nil_iff, List.filter_eq_nil_iff]
  intro x hx
  simp [h x hx]

theorem outermost_table (id : Nat) (source : String) (children : List Node) :
    outermost ((Node.mk id (.table source) children).placed false) =
      [.mk id (.table source) children] := by
  have hbelow := outermost_of_below (placedAll_below children)
  rw [outermost] at hbelow
  rw [Node.placed, outermost, List.filter_cons_of_pos (by rfl), List.map_cons]
  exact congrArg (_ :: ·) hbelow

theorem outermost_mk (id : Nat) {kind : Kind} (children : List Node) (h : kind.isTable = false) :
    outermost ((Node.mk id kind children).placed false) = outermost (placedAll false children) := by
  rw [Node.placed, outermost, List.filter_cons_of_neg (by simp [h]), h]
  rfl

theorem map_plan_eq_zipWith (sites : List Site) : sites.map Site.plan =
    List.zipWith TablePlan.ofNode (sites.map (·.ordinal)) (sites.map (·.node)) := by
  induction sites with
  | nil => rfl
  | cons site sites ih => exact congrArg (site.plan :: ·) ih

theorem placeholder_injective (fingerprint : String) {m n : Nat}
    (h : placeholder fingerprint m = placeholder fingerprint n) : m = n := by
  have htexts := congrArg String.toList h
  simp only [toList_placeholder, markerText, List.append_assoc] at htexts
  have hdigits := List.append_cancel_right
    (List.append_cancel_left (List.append_cancel_left (List.append_cancel_left htexts)))
  rw [← valueOfDigits_toDigits m, hdigits, valueOfDigits_toDigits]

def Site.issues (fingerprint : String) (site : Site) : List Issue :=
  [⟨site.node, .insertText site.position (placeholder fingerprint site.ordinal)⟩,
    ⟨site.node, .insertText
      (site.position + Text.units (placeholder fingerprint site.ordinal)) "\n"⟩]

/-- A request for a table that is not left for later: its picture, or the text of one of its rows,
and a line feed behind either. -/
inductive Issue.IsFallback (i : Issue) : Prop where
  | picture {index : Nat} {uri : String} {size : Option Size}
      (h : i.request = .insertImage index uri size)
  | row {index : Nat} {row : Node} (hrow : row ∈ i.node.children)
      (h : i.request = .insertText index (rowText row))
  | lineEnd {index : Nat} (h : i.request = .insertText index "\n")

/-- Requests among which the tables at some sites have their markers; with native tables there is
nothing else that is issued for a table. -/
inductive Marks (s : Setting) : List Site → List Issue → Prop where
  | nil : Marks s [] []
  | other {i : Issue} {sites : List Site} {is : List Issue} (hi : i.node.kind.isTable = false)
      (h : Marks s sites is) : Marks s sites (i :: is)
  | fallback {i : Issue} {sites : List Site} {is : List Issue}
      (hstrategy : s.options.tableStrategy = .image) (hi : i.IsFallback) (h : Marks s sites is) :
      Marks s sites (i :: is)
  | marker {site : Site} {sites : List Site} {is : List Issue}
      (hstrategy : s.options.tableStrategy = .native) (hnode : site.node.kind.isTable = true)
      (h : Marks s sites is) : Marks s (site :: sites) (site.issues s.fingerprint ++ is)

section

variable {s : Setting} {sites sites' : List Site} {is is' : List Issue}

theorem Marks.append (h : Marks s sites is) (h' : Marks s sites' is') :
    Marks s (sites ++ sites') (is ++ is') := by
  induction h with
  | nil => exact h'
  | other hi h ih => exact .other hi ih
  | fallback hstrategy hi h ih => exact .fallback hstrategy hi ih
  | marker hstrategy hnode h ih => exact .marker hstrategy hnode ih

theorem marks_others (h : ∀ i ∈ is, i.node.kind.isTable = false) : Marks s [] is := by
  induction is with
  | nil => exact .nil
  | cons i is ih =>
    rw [List.forall_mem_cons] at h
    exact .other h.1 (ih h.2)

theorem marks_fallbacks (hstrategy : s.options.tableStrategy = .image)
    (h : ∀ i ∈ is, i.IsFallback) : Marks s [] is := by
  induction is with
  | nil => exact .nil
  | cons i is ih =>
    rw [List.forall_mem_cons] at h
    exact .fallback hstrategy h.1 (ih h.2)

/-- With native tables the markers are all that is issued for tables. -/
theorem Marks.filter_eq (h : Marks s sites is) (hnative : s.options.tableStrategy = .native) :
    is.filter (·.node.kind.isTable) = sites.flatMap (Site.issues s.fingerprint) := by
  induction h with
  | nil => rfl
  | other hi h ih => rw [List.filter_cons_of_neg (by simp [hi]), ih]
  | fallback hstrategy hi h ih =>
    rw [hnative] at hstrategy
    cases hstrategy
  | marker hstrategy hnode h ih =>
    rw [List.filter_append, ih, List.flatMap_cons]
    simp [Site.issues, hnode]

/-- The line feed of a marker follows it directly. -/
theorem Marks.infix (h : Marks s sites is) :
    ∀ site ∈ sites, site.issues s.fingerprint <:+: is := by
  induction h with
  | nil => exact List.forall_mem_nil _
  | other hi h ih => exact fun site hsite => (ih site hsite).trans (List.suffix_cons _ _).isInfix
  | fallback hstrategy hi h ih =>
    exact fun site hsite => (ih site hsite).trans (List.suffix_cons _ _).isInfix
  | marker hstrategy hnode h ih =>
    exact List.forall_mem_cons.2 ⟨(List.prefix_append _ _).isInfix,
      fun site hsite => (ih site hsite).trans (List.suffix_append _ _).isInfix⟩

theorem Marks.isFallback (h : Marks s sites is) (himage : s.options.tableStrategy = .image) :
    ∀ i ∈ is, i.node.kind.isTable = true → i.IsFallback := by
  induction h with
  | nil => exact List.forall_mem_nil _
  | other hi h ih =>
    refine List.forall_mem_cons.2 ⟨fun htable => ?_, ih⟩
    rw [hi] at htable
    cases htable
  | fallback hstrategy hi h ih => exact List.forall_mem_cons.2 ⟨fun _ => hi, ih⟩
  | marker hstrategy hnode h ih =>
    rw [himage] at hstrategy
    cases hstrategy

end

namespace Draft

structure Continues (d e : Draft) : Prop where
  requests : d.requests <+: e.requests
  index : d.index ≤ e.index
  plans : e.plans = d.plans

theorem Continues.refl (d : Draft) : d.Continues d := ⟨List.prefix_rfl, Nat.le_refl _, rfl⟩

theorem Continues.trans {d e f : Draft} (h : d.Continues e) (h' : e.Continues f) : d.Continues f :=
  ⟨h.requests.trans h'.requests, Nat.le_trans h.index h'.index, h'.plans.trans h.plans⟩

theorem continues_push (d : Draft) (r : Request) (units : Nat) :
    d.Continues { d.push r with cursor := d.cursor.advance units } where
  requests := ⟨[r], by simp [requests, push]⟩
  index := Nat.le_add_right _ _
  plans := rfl

theorem continues_insert (d : Draft) (text : String) : d.Continues (d.insert text) := by
  unfold insert
  split
  · exact .refl d
  · exact continues_push d _ _

theorem continues_insertImage (d : Draft) (uri : String) (size : Option Size) :
    d.Continues (d.insertImage uri size) := continues_push d _ 1

theorem continues_styleSince (d : Draft) (start : Nat) (style : TextStyle) :
    d.Continues (d.styleSince start style) := by
  unfold styleSince
  split
  · exact .refl d
  · exact continues_push d _ 0

theorem continues_headingSince (d : Draft) (start : Nat) (level : HeadingLevel) :
    d.Continues (d.headingSince start level) := continues_push d _ 0

theorem stepwise_continues : Stepwise Continues :=
  ⟨.refl, .trans, continues_insert, fun style h => h.trans (continues_styleSince _ _ style)⟩

theorem continues_insertCode (s : Setting) (id : Nat) (lang : Option String) (value : String)
    (d : Draft) : d.Continues (d.insertCode s id lang value) := by
  unfold insertCode
  split
  · exact stepwise_continues.insertAsset continues_insertImage s id d
  · have hblock := (continues_insert d value).trans (stepwise_continues.terminate _)
    dsimp only
    split
    · exact hblock
    · exact hblock.trans (continues_push _ _ 0)

end Draft

/-- Drafting from `d` to `e` issues `is` and leaves the tables at some sites for later, which are
numbered on from the plans of `d`. -/
structure Drafts (s : Setting) (sites : List Site) (d e : Draft) (is : List Issue) : Prop where
  requests : d.requests ++ is.map Issue.request = e.requests
  index : d.index ≤ e.index
  plans : e.plans = d.plans ++ sites.map Site.plan
  ordinals : sites.map (·.ordinal) = List.range' d.plans.length sites.length
  ascending : sites.Pairwise (·.position < ·.position)
  within : ∀ site ∈ sites, d.index ≤ site.position ∧ site.position < e.index
  marks : Marks s sites is

section

variable {s : Setting} {sites sites' : List Site} {d e f : Draft} {is is' : List Issue}

theorem Drafts.refl (s : Setting) (d : Draft) : Drafts s [] d d [] where
  requests := List.append_nil _
  index := Nat.le_refl _
  plans := (List.append_nil _).symm
  ordinals := rfl
  ascending := .nil
  within := List.forall_mem_nil _
  marks := .nil

theorem Drafts.trans (h : Drafts s sites d e is) (h' : Drafts s sites' e f is') :
    Drafts s (sites ++ sites') d f (is ++ is') where
  requests := by rw [List.map_append, ← List.append_assoc, h.requests, h'.requests]
  index := Nat.le_trans h.index h'.index
  plans := by rw [h'.plans, h.plans, List.map_append, List.append_assoc]
  ordinals := by
    have hlength : e.plans.length = d.plans.length + sites.length := by
      rw [h.plans, List.length_append, List.length_map]
    rw [List.map_append, h.ordinals, h'.ordinals, hlength, List.length_append, List.range'_append_1]
  ascending := by
    refine List.pairwise_append.2 ⟨h.ascending, h'.ascending, fun site hsite site' hsite' => ?_⟩
    exact Nat.lt_of_lt_of_le (h.within site hsite).2 (h'.within site' hsite').1
  within := by
    refine List.forall_mem_append.2 ⟨fun site hsite => ?_, fun site hsite => ?_⟩
    · exact ⟨(h.within site hsite).1, Nat.lt_of_lt_of_le (h.within site hsite).2 h'.index⟩
    · exact ⟨Nat.le_trans h.index (h'.within site hsite).1, (h'.within site hsite).2⟩
  marks := h.marks.append h'.marks

theorem map_request_issued {n : Node} (h : d.requests <+: e.requests) :
    d.requests ++ (n.issued d e).map Issue.request = e.requests := by
  have hid : Issue.request ∘ (⟨n, ·⟩) = id := rfl
  rw [Node.issued, List.map_map, hid, List.map_id]
  exact (List.prefix_iff_eq_append.1 h)

theorem node_of_mem_issued {n : Node} {i : Issue} (h : i ∈ n.issued d e) : i.node = n := by
  obtain ⟨r, -, rfl⟩ := List.mem_map.1 h
  rfl

theorem Draft.Continues.drafts (h : d.Continues e) {n : Node} (hmarks : Marks s [] (n.issued d e)) :
    Drafts s [] d e (n.issued d e) where
  requests := map_request_issued h.requests
  index := h.index
  plans := h.plans.trans (List.append_nil _).symm
  ordinals := rfl
  ascending := .nil
  within := List.forall_mem_nil _
  marks := hmarks

theorem Draft.Continues.drafts_own (h : d.Continues e) {n : Node} (hn : n.kind.isTable = false) :
    Drafts s [] d e (n.issued d e) :=
  h.drafts (marks_others fun _ hi => (node_of_mem_issued hi).symm ▸ hn)

theorem drafts_insertMarker (hnative : s.options.tableStrategy = .native) {node : Node}
    (hnode : node.kind.isTable = true) (d : Draft) :
    Drafts s [⟨d.tables.length, d.index, node⟩] d (d.insertMarker s node)
      (node.issued d (d.insertMarker s node)) := by
  have hplans : d.plans.length = d.tables.length := List.length_reverse
  have hne : (placeholder s.fingerprint d.tables.length).isEmpty = false := by
    simp [placeholder, markerStart]
  have hunits : 0 < Text.units "\n" := by decide
  have hrequests : (d.insertMarker s node).requests = d.requests ++
      (Site.issues s.fingerprint ⟨d.tables.length, d.index, node⟩).map Issue.request := by
    simp [Draft.insertMarker, Draft.planTable, Draft.terminate, Draft.insert, hne, Draft.requests,
      Draft.push, Site.issues, Draft.index, Cursor.advancePast, Cursor.advance]
  have hindex : (d.insertMarker s node).index =
      d.index + Text.units (placeholder s.fingerprint d.tables.length) + Text.units "\n" := by
    simp [Draft.insertMarker, Draft.planTable, Draft.terminate, Draft.insert, hne, Draft.index,
      Cursor.advancePast, Cursor.advance]
  have hissued : node.issued d (d.insertMarker s node) =
      Site.issues s.fingerprint ⟨d.tables.length, d.index, node⟩ := by
    rw [Node.issued, hrequests, List.drop_left]
    rfl
  rw [hissued]
  refine ⟨hrequests.symm, by omega, ?_, ?_, List.pairwise_singleton _ _, ?_, ?_⟩
  · simp [Draft.plans, Draft.insertMarker, Draft.planTable, Draft.terminate, Draft.insert, hne,
      Draft.push, Site.plan]
  · simp [hplans]
  · exact List.forall_mem_singleton.2 ⟨Nat.le_refl _, by dsimp only; omega⟩
  · simpa using @Marks.marker s ⟨d.tables.length, d.index, node⟩ [] [] hnative hnode .nil

theorem requests_insert (d : Draft) (text : String) :
    ∃ rs, (d.insert text).requests = d.requests ++ rs ∧ ∀ r ∈ rs, r = .insertText d.index text := by
  unfold Draft.insert
  split
  · exact ⟨[], (List.append_nil _).symm, List.forall_mem_nil _⟩
  · exact ⟨[.insertText d.index text], by simp [Draft.requests, Draft.push], by simp⟩

theorem isFallback_of_requests {n : Node} {rs : List Request} (h : e.requests = d.requests ++ rs)
    (hrs : ∀ r ∈ rs, Issue.IsFallback ⟨n, r⟩) : ∀ i ∈ n.issued d e, i.IsFallback := by
  rw [Node.issued, h, List.drop_left]
  exact List.forall_mem_map.2 hrs

theorem isFallback_insertAsset (s : Setting) (n : Node) (id : Nat) (d : Draft) :
    ∀ i ∈ n.issued d (d.insertAsset s id), i.IsFallback := by
  unfold Draft.insertAsset
  split
  · obtain ⟨rs, hrs, hend⟩ := requests_insert (d.insertImage _ s.imageSize) "\n"
    have himage (uri : String) : (d.insertImage uri s.imageSize).requests =
        d.requests ++ [.insertImage d.index uri s.imageSize] := by
      simp [Draft.insertImage, Draft.requests, Draft.push]
    rw [himage, List.append_assoc] at hrs
    refine isFallback_of_requests hrs (List.forall_mem_cons.2 ⟨.picture rfl, fun r hr => ?_⟩)
    exact .lineEnd (hend r hr)
  · exact isFallback_of_requests (List.append_nil _).symm (List.forall_mem_nil _)

theorem requests_insertRows (rows : List Node) (d : Draft) :
    ∃ rs, (d.insertRows rows).requests = d.requests ++ rs ∧
      ∀ r ∈ rs, (∃ index, ∃ row ∈ rows, r = .insertText index (rowText row)) ∨
        ∃ index, r = .insertText index "\n" := by
  unfold Draft.insertRows
  induction rows generalizing d with
  | nil => exact ⟨[], (List.append_nil _).symm, List.forall_mem_nil _⟩
  | cons row rows ih =>
    obtain ⟨as, has, hrow⟩ := requests_insert d (rowText row)
    obtain ⟨bs, hbs, hend⟩ := requests_insert (d.insert (rowText row)) "\n"
    obtain ⟨cs, hcs, hrest⟩ := ih (d.insert (rowText row)).terminate
    refine ⟨as ++ bs ++ cs, ?_, ?_⟩
    · rw [List.foldl_cons, hcs, Draft.terminate, hbs, has, List.append_assoc, List.append_assoc,
        List.append_assoc]
    · refine List.forall_mem_append.2 ⟨List.forall_mem_append.2 ⟨fun r hr => ?_, fun r hr => ?_⟩,
        fun r hr => ?_⟩
      · exact .inl ⟨_, row, List.mem_cons_self, hrow r hr⟩
      · exact .inr ⟨_, hend r hr⟩
      · rcases hrest r hr with ⟨index, row', hrow', heq⟩ | hlineEnd
        · exact .inl ⟨index, row', List.mem_cons_of_mem row hrow', heq⟩
        · exact .inr hlineEnd

theorem isFallback_insertRows (id : Nat) (kind : Kind) (rows : List Node) (d : Draft) :
    ∀ i ∈ (Node.mk id kind rows).issued d (d.insertRows rows), i.IsFallback := by
  obtain ⟨rs, hrs, hkinds⟩ := requests_insertRows rows d
  refine isFallback_of_requests hrs fun r hr => ?_
  rcases hkinds r hr with ⟨index, row, hrow, heq⟩ | ⟨index, heq⟩
  · exact .row hrow heq
  · exact .lineEnd heq

def Setting.deferred (s : Setting) (tables : List Node) : List Node :=
  match s.options.tableStrategy with
  | .native => tables
  | .image => []

theorem deferred_append (s : Setting) (as bs : List Node) :
    s.deferred (as ++ bs) = s.deferred as ++ s.deferred bs := by
  unfold Setting.deferred
  cases s.options.tableStrategy <;> rfl

theorem deferred_nil (s : Setting) : s.deferred [] = [] := by
  unfold Setting.deferred
  cases s.options.tableStrategy <;> rfl

theorem emit_table_drafts (s : Setting) (id : Nat) (source : String) (children : List Node)
    (d : Draft) : ∃ sites : List Site,
      sites.map (·.node) = s.deferred [.mk id (.table source) children] ∧
      Drafts s sites d ((Node.mk id (.table source) children).emit s d)
        ((Node.mk id (.table source) children).issues s d) := by
  rw [Node.issues, Node.emit, Draft.insertTable, Setting.deferred]
  cases hstrategy : s.options.tableStrategy with
  | native =>
    exact ⟨[⟨d.tables.length, d.index, _⟩], rfl, drafts_insertMarker hstrategy rfl d⟩
  | image =>
    refine ⟨[], rfl, ?_⟩
    dsimp only
    split
    · exact (Draft.stepwise_continues.insertAsset Draft.continues_insertImage s id d).drafts
        (marks_fallbacks hstrategy (isFallback_insertAsset s _ id d))
    · exact (Draft.stepwise_continues.insertRows children d).drafts
        (marks_fallbacks hstrategy (isFallback_insertRows id (.table source) children d))

/-- A node of such a kind drafts its children and then does something of its own. -/
def Kind.isSpan : Kind → Bool
  | .document | .tableRow | .tableCell | .paragraph | .strong | .emphasis | .link _
  | .heading _ => true
  | _ => false

theorem issues_span (s : Setting) (id : Nat) {kind : Kind} (children : List Node) (d : Draft)
    (h : kind.isSpan = true) : (Node.mk id kind children).issues s d = issuesAll s children d ++
      (Node.mk id kind children).issued (emitAll s children d)
        ((Node.mk id kind children).emit s d) := by
  cases kind <;> first | rfl | cases h

theorem continues_span (s : Setting) (id : Nat) {kind : Kind} (children : List Node) (d : Draft)
    (h : kind.isSpan = true) :
    (emitAll s children d).Continues ((Node.mk id kind children).emit s d) := by
  cases kind with
  | document => exact .refl _
  | tableRow => exact .refl _
  | tableCell => exact .refl _
  | paragraph => exact Draft.stepwise_continues.terminate _
  | strong => exact Draft.continues_styleSince _ _ _
  | emphasis => exact Draft.continues_styleSince _ _ _
  | link url => exact Draft.continues_styleSince _ _ _
  | heading depth =>
    have hhead := (Draft.stepwise_continues.terminate (emitAll s children d)).trans
      (Draft.continues_headingSince _ d.index (.ofDepth depth))
    rw [Node.emit]
    split
    · exact hhead.trans (Draft.continues_styleSince _ _ _)
    · exact hhead
  | _ => cases h

theorem outermost_leaf (id : Nat) {kind : Kind} {children : List Node} (h : kind.isTable = false)
    (hnil : children.isEmpty) : outermost ((Node.mk id kind children).placed false) = [] := by
  rw [outermost_mk id children h, List.isEmpty_iff.1 hnil]
  rfl

theorem Draft.Continues.drafts_leaf {id : Nat} {kind : Kind} {children : List Node}
    (h : d.Continues e) (hkind : kind.isTable = false) (hnil : children.isEmpty) :
    ∃ sites : List Site,
      sites.map (·.node) = s.deferred (outermost ((Node.mk id kind children).placed false)) ∧
      Drafts s sites d e ((Node.mk id kind children).issued d e) := by
  rw [outermost_leaf id hkind hnil, deferred_nil]
  exact ⟨[], rfl, h.drafts_own hkind⟩

mutual

/-- The outermost tables of a node are left for later in their order, whatever stands around
them. -/
theorem emit_drafts (s : Setting) : (n : Node) → Formed n.preorder → (d : Draft) →
    ∃ sites : List Site, sites.map (·.node) = s.deferred (outermost (n.placed false)) ∧
      Drafts s sites d (n.emit s d) (n.issues s d)
  | .mk id kind children, h, d => by
    rw [Node.preorder, Formed.cons, Node.isFormed] at h
    have hspan (hkind : kind.isSpan = true) (htable : kind.isTable = false) :
        ∃ sites : List Site,
          sites.map (·.node) = s.deferred (outermost ((Node.mk id kind children).placed false)) ∧
          Drafts s sites d ((Node.mk id kind children).emit s d)
            ((Node.mk id kind children).issues s d) := by
      obtain ⟨sites, hsites, hall⟩ := emitAll_drafts s children h.2 d
      refine ⟨sites, by rw [hsites, outermost_mk id children htable], ?_⟩
      have hown := hall.trans ((continues_span s id children d hkind).drafts_own
        (n := .mk id kind children) htable)
      rwa [List.append_nil, ← issues_span s id children d hkind] at hown
    cases kind with
    | list start =>
      rw [outermost_mk id children rfl]
      exact emitItems_drafts s start children (by simpa using h.1) h.2 d
    | listItem =>
      obtain ⟨sites, hsites, hall⟩ := emitAll_drafts s children h.2 (d.insert (s.itemMark none))
      have hmark := (Draft.continues_insert d (s.itemMark none)).drafts_own
        (s := s) (n := .mk id .listItem children) rfl
      exact ⟨sites, by rw [hsites, outermost_mk id children rfl], hmark.trans hall⟩
    | text value => exact (Draft.continues_insert d value).drafts_leaf rfl h.1
    | inlineCode value =>
      exact ((Draft.continues_insert d value).trans
        (Draft.continues_styleSince _ _ _)).drafts_leaf rfl h.1
    | image url alt =>
      refine Draft.Continues.drafts_leaf ?_ rfl h.1
      rw [Node.emit]
      split
      · exact Draft.continues_insertImage d _ _
      · exact Draft.continues_insert d alt
    | code lang value => exact (Draft.continues_insertCode s id lang value d).drafts_leaf rfl h.1
    | table source =>
      rw [outermost_table]
      exact emit_table_drafts s id source children d
    | _ => exact hspan rfl rfl

theorem emitAll_drafts (s : Setting) : (ns : List Node) → Formed (preorderAll ns) → (d : Draft) →
    ∃ sites : List Site, sites.map (·.node) = s.deferred (outermost (placedAll false ns)) ∧
      Drafts s sites d (emitAll s ns d) (issuesAll s ns d)
  | [], _, d => ⟨[], (deferred_nil s).symm, .refl s d⟩
  | n :: ns, h, d => by
    rw [preorderAll, Formed.append] at h
    obtain ⟨sites, hsites, hfirst⟩ := emit_drafts s n h.1 d
    obtain ⟨sites', hsites', hrest⟩ := emitAll_drafts s ns h.2 (n.emit s d)
    refine ⟨sites ++ sites', ?_, hfirst.trans hrest⟩
    rw [List.map_append, hsites, hsites', placedAll, outermost_append, deferred_append]

theorem emitItems_drafts (s : Setting) (number : Option Nat) : (ns : List Node) →
    (∀ n ∈ ns, n.kind = .listItem) → Formed (preorderAll ns) → (d : Draft) →
    ∃ sites : List Site, sites.map (·.node) = s.deferred (outermost (placedAll false ns)) ∧
      Drafts s sites d (emitItems s number ns d) (issuesOfItems s number ns d)
  | [], _, _, d => ⟨[], (deferred_nil s).symm, .refl s d⟩
  | .mk id kind children :: ns, hitems, h, d => by
    obtain ⟨hkind, hothers⟩ := List.forall_mem_cons.1 hitems
    obtain rfl : kind = .listItem := hkind
    rw [preorderAll, Node.preorder, Formed.append, Formed.cons] at h
    have hmark := (Draft.continues_insert d (s.itemMark number)).drafts_own
      (s := s) (n := .mk id .listItem children) rfl
    obtain ⟨sites, hsites, hitem⟩ := emitAll_drafts s children h.1.2 (d.insert (s.itemMark number))
    obtain ⟨sites', hsites', hrest⟩ := emitItems_drafts s (number.map (· + 1)) ns hothers h.2
      (emitAll s children (d.insert (s.itemMark number)))
    refine ⟨sites ++ sites', ?_, (hmark.trans hitem).trans hrest⟩
    rw [List.map_append, hsites, hsites', placedAll, outermost_append, deferred_append,
      outermost_mk id children rfl]

end

end

def Setting.withFingerprint (s : Setting) (fingerprint : String) : Setting :=
  { s with fingerprint := fingerprint }

theorem alike_withFingerprint {s : Setting} (himage : s.options.tableStrategy = .image)
    (fingerprint : String) : (s.withFingerprint fingerprint).Alike s where
  assets := rfl
  imageSize := rfl
  isDiagram := rfl
  itemMark := rfl
  headingTextStyles := rfl
  insertTable node d := by
    have hstrategy : (s.withFingerprint fingerprint).options.tableStrategy = .image := himage
    rw [Draft.insertTable, Draft.insertTable, himage, hstrategy]
    rfl

/-- A plan has as many rows as its table, and as many columns as the widest of them has cells. -/
structure TablePlan.Measured (plan : TablePlan) : Prop where
  rows : plan.rows = plan.node.children.length
  le : ∀ row ∈ plan.node.children, row.children.length ≤ plan.columns
  widest : plan.columns = 0 ∨ ∃ row ∈ plan.node.children, row.children.length = plan.columns

theorem measured_ofNode (ordinal : Nat) (node : Node) :
    (TablePlan.ofNode ordinal node).Measured := by
  obtain ⟨hmem, hle⟩ := List.max?_eq_some_iff.1 node.max?_widths
  rw [List.forall_mem_cons, List.forall_mem_map] at hle
  refine ⟨rfl, hle.2, ?_⟩
  rcases List.mem_cons.1 hmem with hzero | hmem
  · exact .inl hzero
  · exact .inr (List.mem_map.1 hmem)

/-- For every request of the structure batch it is known for which node it was issued. With native
tables the tables that are below no other one are left for later: the plans are theirs in pre-order,
numbered from 0 on and of their shapes. What is issued for tables are exactly their markers, one for
each plan and with its ordinal, each with a line feed right behind it, at ascending positions and
all different. With tables as images nothing is left for later, and what is issued for a table is
its picture or the text of its rows; nor does the draft depend on the fingerprint, which every
marker contains. -/
theorem compile_issues (doc : Document) (h : Formed doc.nodes) (assets : AssetMap)
    (options : ExportOptions) :
    let draft := doc.compile assets options
    let issues := doc.issues assets options
    let count := doc.outerTables.length
    draft.requests = issues.map Issue.request ∧
    (options.tableStrategy = .native →
      draft.plans = List.zipWith TablePlan.ofNode (List.range count) doc.outerTables ∧
      (∀ plan ∈ draft.plans, plan.Measured) ∧
      ∃ sites : List Site,
      sites.map (·.node) = doc.outerTables ∧ sites.map (·.ordinal) = List.range count ∧
      sites.Pairwise (·.position < ·.position) ∧
      issues.filter (·.node.kind.isTable) = sites.flatMap (Site.issues doc.fingerprint) ∧
      (∀ site ∈ sites, site.issues doc.fingerprint <:+: issues) ∧
      (sites.map fun site => placeholder doc.fingerprint site.ordinal).Nodup) ∧
    (options.tableStrategy = .image → draft.plans = [] ∧
      (∀ i ∈ issues, i.node.kind.isTable = true → i.IsFallback) ∧
      ∀ fingerprint, ({ doc with fingerprint } : Document).compile assets options = draft) := by
  intro draft issues count
  rw [Document.nodes, Node.descendants_eq_preorder] at h
  obtain ⟨sites, hnodes, hdrafts⟩ :=
    emit_drafts ⟨doc.fingerprint, assets, options⟩ doc.root h .empty
  have hplans : draft.plans = sites.map Site.plan := hdrafts.plans
  refine ⟨hdrafts.requests.symm, fun hnative => ?_, fun himage => ?_⟩
  · rw [Setting.deferred, hnative] at hnodes
    change sites.map (·.node) = doc.outerTables at hnodes
    have hcount : sites.length = count := by
      rw [← List.length_map, hnodes]
    have hordinals : sites.map (·.ordinal) = List.range count := by
      rw [hdrafts.ordinals, hcount, List.range_eq_range']
      rfl
    refine ⟨by rw [hplans, map_plan_eq_zipWith, hordinals, hnodes], ?_, sites, hnodes, hordinals,
      hdrafts.ascending, hdrafts.marks.filter_eq hnative, hdrafts.marks.infix, ?_⟩
    · rw [hplans]
      exact List.forall_mem_map.2 fun site _ => measured_ofNode site.ordinal site.node
    · have hmap : (sites.map fun site => placeholder doc.fingerprint site.ordinal) =
          (List.range count).map (placeholder doc.fingerprint) := by
        rw [← hordinals, List.map_map]
        rfl
      rw [hmap]
      exact List.nodup_range.map fun _ _ => placeholder_injective doc.fingerprint
  · rw [Setting.deferred, himage] at hnodes
    have hnone : sites = [] := List.map_eq_nil_iff.1 hnodes
    refine ⟨by rw [hplans, hnone]; rfl, hdrafts.marks.isFallback himage, fun fingerprint => ?_⟩
    exact emit_congr (@alike_withFingerprint ⟨doc.fingerprint, assets, options⟩ himage fingerprint)
      doc.root .empty

def leafTable (id : Nat) (rows : List (List Node)) : Node :=
  .mk id (.table "") (rows.map fun cells => .new .tableRow (cells.map fun n => .new .tableCell [n]))

def scatteredTables : Document where
  root := .new .document [.new .paragraph [.leaf (.text "[[QUIRE_TABLE_ab_0]]")],
    .new (.list none) [.new .listItem [leafTable 5 [[.leaf (.text "a")]]]],
    .new .strong [leafTable 9 [[.leaf (.text "b")], [.leaf (.text "c"), leafTable 15 [[]]]]]]
  fingerprint := "ab"

theorem compile_issues_scatteredTables :
    Formed scatteredTables.nodes ∧
      (scatteredTables.compile .empty .default).plans.map
          (fun p => (p.ordinal, p.node.id, p.rows, p.columns)) =
        [(0, 5, 1, 1), (1, 9, 2, 2)] ∧
      ∃ sites : List Site, sites.map (·.ordinal) = [0, 1] ∧ sites.map (·.node.id) = [5, 9] ∧
        (scatteredTables.issues .empty .default).filter (·.node.kind.isTable) =
          sites.flatMap (Site.issues "ab") := by
  have hformed : Formed scatteredTables.nodes := by decide +kernel
  obtain ⟨-, hnative, -⟩ := compile_issues scatteredTables hformed .empty .default
  obtain ⟨hplans, -, sites, hnodes, hordinals, -, hissues, -⟩ := hnative rfl
  have hids := congrArg (List.map Node.id) hnodes
  rw [List.map_map] at hids
  exact ⟨hformed, by rw [hplans]; decide +kernel, sites, hordinals, hids, hissues⟩

end Folio
