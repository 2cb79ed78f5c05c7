import Folio.Proofs.Draft.Rendering
/-!
Carrying out the draft of a tree writes what the tree says: the requests of a node, on any document,
put the rendering of its pieces where the cursor was (`emit_writes`). Styles are set on what is
there already, from the inside out, so each of them is the look that one more node lends to its
pieces.
-/
set_option autoImplicit false

namespace Folio

open Edit Remote

namespace Draft

/-- Drafting from `d` to `e` puts `us` at the cursor of `d`, whatever the document holds, and leaves
`plans` for later. -/
def Puts (us : Content) (plans : List TablePlan) (d e : Draft) : Prop :=
  e.index = d.index + us.length ∧ e.plans = d.plans ++ plans ∧
    ∃ rs, e.requests = d.requests ++ rs ∧ Rewrites d.index rs [] us

theorem Puts.refl (d : Draft) : Puts [] [] d d :=
  ⟨rfl, by simp, [], by simp, .nil _ _⟩

theorem Puts.trans {us vs : Content} {ps qs : List TablePlan} {d e f : Draft}
    (h : Puts us ps d e) (h' : Puts vs qs e f) : Puts (us ++ vs) (ps ++ qs) d f := by
  obtain ⟨hi, hp, rs, hr, hw⟩ := h
  obtain ⟨hi', hp', rs', hr', hw'⟩ := h'
  refine ⟨?_, ?_, rs ++ rs', ?_, ?_⟩
  · rw [hi', hi, List.length_append, Nat.add_assoc]
  · rw [hp', hp, List.append_assoc]
  · rw [hr', hr, List.append_assoc]
  · exact hw.forward hw' hi

theorem Puts.length_plans {us : Content} {ps : List TablePlan} {d e : Draft}
    (h : Puts us ps d e) : e.tables.length = d.tables.length + ps.length := by
  have := congrArg List.length h.2.1
  simpa [Draft.plans] using this

theorem Puts.push {us vs : Content} {ps : List TablePlan} {d e : Draft} (h : Puts us ps d e)
    {r : Request} (hr : Rewrites d.index [r] us vs) (hlen : vs.length = us.length) :
    Puts vs ps d (e.push r) := by
  obtain ⟨hi, hp, rs, he, hw⟩ := h
  refine ⟨by rw [hlen]; exact hi, hp, rs ++ [r], ?_, hw.trans hr⟩
  simp only [requests, Draft.push, List.reverse_cons] at he ⊢
  rw [he, List.append_assoc]

theorem puts_insert (d : Draft) (text : String) :
    Puts (inLook .plain (glyphsOf text)) [] d (d.insert text) := by
  unfold insert
  split
  · rename_i h
    have htext : text = "" := by simpa using h
    subst htext
    simpa [inLook] using Puts.refl d
  · refine ⟨?_, by simp [plans, push], [.insertText d.index text], by simp [requests, push], ?_⟩
    · simp [index, Cursor.advancePast, Cursor.advance]
    · exact rewrites_insertText d.index text

theorem puts_insertImage (d : Draft) (uri : String) (size : Option Size) :
    Puts (inLook .plain [.image uri size]) [] d (d.insertImage uri size) :=
  ⟨rfl, by simp [plans, insertImage, push], [.insertImage d.index uri size],
    by simp [requests, insertImage, push], rewrites_insertImage d.index uri size⟩

theorem Puts.pushText {us : Content} {ps : List TablePlan} {d e : Draft} (h : Puts us ps d e)
    (style : TextStyle) : Puts (styled style us) ps d (e.styleSince d.index style) := by
  have hi := h.1
  unfold styleSince
  split
  · rename_i hempty
    have hus : us = [] := by
      have hle : e.index ≤ d.index := by simpa [Range.isEmpty] using hempty
      exact List.eq_nil_of_length_eq_zero (by omega)
    subst hus
    exact h
  · rename_i hne
    have hus : us ≠ [] := by
      rintro rfl
      simp [Range.isEmpty, hi] at hne
    exact h.push (rewrites_text style hus hi) (by simp [styled])

theorem Puts.pushHeading {us : Content} {ps : List TablePlan} {d e : Draft} (h : Puts us ps d e)
    (hus : us ≠ []) (level : HeadingLevel) :
    Puts (headed level us) ps d (e.headingSince d.index level) :=
  h.push (rewrites_heading level hus h.1) (by simp [headed])

/-- A style may end before the cursor: what was put behind it stays as it is. -/
theorem Puts.pushTextBefore {us vs : Content} {ps : List TablePlan} {d e : Draft} {stop : Nat}
    (h : Puts (us ++ vs) ps d e) (hstop : stop = d.index + us.length) (style : TextStyle) :
    Puts (styled style us ++ vs) ps d
      (if (Range.mk d.index stop).isEmpty then e else e.push (.text ⟨d.index, stop⟩ style)) := by
  by_cases hus : us = []
  · subst hus
    have hempty : (Range.mk d.index stop).isEmpty = true := by simp [Range.isEmpty, hstop]
    rw [if_pos hempty]
    exact h
  · rw [isEmpty_eq_false hus hstop]
    exact h.push ((rewrites_text style hus hstop).appendRight vs) (by simp [styled])

theorem Puts.planTable {us : Content} {ps : List TablePlan} {d e : Draft} (h : Puts us ps d e)
    (node : Node) : Puts us (ps ++ [.ofNode e.tables.length node]) d (e.planTable node) := by
  obtain ⟨hi, hp, rs, hr, hw⟩ := h
  refine ⟨hi, ?_, rs, hr, hw⟩
  simp only [plans, Draft.planTable, List.reverse_cons] at hp ⊢
  rw [hp, List.append_assoc]

end Draft

open Draft

/-- The plans of the tables among some pieces, counted from `ordinal` on. -/
def plansFrom (ordinal : Nat) : List Piece → List TablePlan
  | [] => []
  | p :: ps =>
    match p.matter with
    | .table node => .ofNode ordinal node :: plansFrom (ordinal + 1) ps
    | _ => plansFrom ordinal ps

theorem plansFrom_length (ordinal : Nat) (ps : List Piece) :
    (plansFrom ordinal ps).length = tablesCounted ps := by
  induction ps generalizing ordinal with
  | nil => rfl
  | cons p ps ih =>
    obtain ⟨above, matter⟩ := p
    cases matter with
    | table node =>
      simp only [plansFrom, List.length_cons, ih, tablesCounted, Piece.tableCount]
      omega
    | _ => simp [plansFrom, ih, tablesCounted, Piece.tableCount]

theorem plansFrom_append (ordinal : Nat) (ps qs : List Piece) :
    plansFrom ordinal (ps ++ qs) =
      plansFrom ordinal ps ++ plansFrom (ordinal + tablesCounted ps) qs := by
  induction ps generalizing ordinal with
  | nil => rfl
  | cons p ps ih =>
    obtain ⟨above, matter⟩ := p
    cases matter <;>
      simp [plansFrom, ih, tablesCounted, Piece.tableCount, Nat.add_assoc]

theorem plansFrom_under (outer : List Kind) (ordinal : Nat) (ps : List Piece) :
    plansFrom ordinal (ps.map (Piece.under outer)) = plansFrom ordinal ps := by
  induction ps generalizing ordinal with
  | nil => rfl
  | cons p ps ih =>
    obtain ⟨above, matter⟩ := p
    cases matter <;> simp only [List.map_cons, plansFrom, Piece.under, ih]

/-- Drafting from `d` to `e` puts these pieces at the cursor, their tables counted on from those
that `d` has planned. -/
def Writes (s : Setting) (ps : List Piece) (d e : Draft) : Prop :=
  Puts (render s (markerView s) d.tables.length ps) (plansFrom d.tables.length ps) d e

section

variable {s : Setting} {ps qs : List Piece} {d e f : Draft}

theorem Writes.refl (s : Setting) (d : Draft) : Writes s [] d d := Puts.refl d

theorem Writes.trans (h : Writes s ps d e) (h' : Writes s qs e f) : Writes s (ps ++ qs) d f := by
  have hlen := h.length_plans
  rw [plansFrom_length] at hlen
  unfold Writes at h' ⊢
  rw [render_append, plansFrom_append, ← hlen]
  exact Puts.trans h h'

theorem Writes.one {p : Piece} {us : Content} (h : Puts us [] d e)
    (hus : p.spots s (markerView s) d.tables.length = us)
    (hplans : plansFrom d.tables.length [p] = []) : Writes s [p] d e := by
  unfold Writes
  rw [hplans]
  simpa only [render, List.append_nil, hus] using h

theorem look_top (s : Setting) (matter : Matter) :
    (Piece.mk [] matter).look s =
      { Look.plain with
        text.font := if (Piece.mk [] matter).tone = .plain then none else some ⟨codeFont, none⟩
        text.background :=
          if (Piece.mk [] matter).tone = .codeBlock then some codeBackground else none } := by
  simp [Piece.look, Piece.headingDepth?, Look.plain, TextStyle.plain]

theorem writes_insert (s : Setting) (d : Draft) (text : String) :
    Writes s [.plain [] text] d (d.insert text) :=
  .one (puts_insert d text) (by simp [Piece.plain, Piece.spots, look_top, Piece.tone]; rfl) rfl

theorem writes_terminate (s : Setting) (d : Draft) : Writes s [.lineEnd []] d d.terminate :=
  writes_insert s d "\n"

theorem writes_insertImage (s : Setting) (d : Draft) (uri : String) :
    Writes s [⟨[], .picture uri⟩] d (d.insertImage uri s.imageSize) :=
  .one (puts_insertImage d uri s.imageSize) (by simp [Piece.spots, look_top, Piece.tone]; rfl) rfl

theorem styled_inLook (style : TextStyle) (look : Look) (gs : List Glyph) :
    styled style (inLook look gs) = inLook { look with text := overlay style look.text } gs :=
  mapLook_inLook _ look gs

theorem writes_inlineCode (s : Setting) (d : Draft) (value : String) :
    Writes s [⟨[], .text .inlineCode value⟩] d
      ((d.insert value).styleSince d.index inlineCodeStyle) := by
  refine .one ((puts_insert d value).pushText inlineCodeStyle) ?_ rfl
  rw [styled_inLook]
  simp [Piece.spots, look_top, Piece.tone, Look.plain, TextStyle.plain, overlay, inlineCodeStyle,
    TextStyle.inFont]

theorem writes_insertAsset (s : Setting) (id : Nat) (d : Draft) :
    Writes s (assetPieces s [] id) d (d.insertAsset s id) := by
  unfold assetPieces insertAsset
  cases s.assets.get? id with
  | some uri => exact (writes_insertImage s d uri).trans (writes_terminate s _)
  | none => exact .refl s d

theorem writes_insertCode (s : Setting) (id : Nat) (lang : Option String) (value : String)
    (d : Draft) : Writes s (codePieces s [] id lang value) d (d.insertCode s id lang value) := by
  unfold codePieces insertCode
  split
  · exact writes_insertAsset s id d
  · have h := ((puts_insert d value).trans (puts_insert (d.insert value) "\n")).pushTextBefore
      (puts_insert d value).1 codeStyle
    rw [styled_inLook] at h
    unfold Writes
    simpa [render, Piece.spots, look_top, Piece.tone, Piece.lineEnd, Piece.plain, Look.plain,
      TextStyle.plain, overlay, codeStyle, plansFrom, terminate] using h

theorem writes_insertRows (s : Setting) (rows : List Node) (d : Draft) :
    Writes s (rows.flatMap fun row => [.plain [] (rowText row), .lineEnd []]) d
      (d.insertRows rows) := by
  unfold insertRows
  induction rows generalizing d with
  | nil => exact .refl s d
  | cons row rows ih =>
    exact ((writes_insert s d _).trans (writes_terminate s _)).trans (ih _)

theorem writes_insertTable (s : Setting) (node : Node) (d : Draft) :
    Writes s (tablePieces s [] node) d (d.insertTable s node) := by
  unfold tablePieces insertTable
  cases s.options.tableStrategy with
  | native =>
    have h := (puts_insert d (placeholder s.fingerprint d.tables.length)).trans
      (puts_insert _ "\n")
    have hlen := h.length_plans
    have hplan := h.planTable node
    simp only [List.nil_append, List.length_nil, Nat.add_zero] at hlen hplan
    rw [hlen] at hplan
    unfold Writes
    simpa [render, Piece.spots, look_top, Piece.tone, Piece.lineEnd, Piece.plain, Look.plain,
      TextStyle.plain, markerView, plansFrom, insertMarker, terminate] using hplan
  | image =>
    dsimp only
    split
    · exact writes_insertAsset s node.id d
    · exact writes_insertRows s node.children d

/-- A style on all that was put is the look that one more node lends. -/
theorem Writes.styleSince (h : Writes s ps d e) {kind : Kind} {style : TextStyle}
    (hlend : kind.lend s = fun l => { l with text := overlay style l.text }) :
    Writes s (ps.map (Piece.under [kind])) d (e.styleSince d.index style) := by
  unfold Writes
  rw [render_under, plansFrom_under, hlend]
  exact Puts.pushText h style

theorem Writes.under (h : Writes s ps d e) (kind : Kind) (hlend : kind.lend s = id) :
    Writes s (ps.map (Piece.under [kind])) d e := by
  unfold Writes
  rw [render_under, plansFrom_under, hlend]
  have hid : Spot.mapLook id = id := rfl
  rwa [hid, List.map_id]

theorem Writes.headingSince (h : Writes s ps d e) (hlt : d.index < e.index) (depth : Nat) :
    Writes s (ps.map (Piece.under [.heading depth])) d
      (let e := e.headingSince d.index (.ofDepth depth)
       if s.options.headingTextStyles then e.styleSince d.index (headingTextStyle depth)
       else e) := by
  have hne : render s (markerView s) d.tables.length ps ≠ [] := by
    intro hnil
    have := h.1
    rw [hnil] at this
    simp at this
    omega
  have hhead := Puts.pushHeading h hne (.ofDepth depth)
  unfold Writes
  rw [render_under, plansFrom_under]
  dsimp only
  split
  · rename_i hopt
    -- The paragraph style is set first and the text style on top of it.
    have hlend : Spot.mapLook (Kind.lend s (.heading depth)) =
        Spot.mapLook (fun l => { l with text := overlay (headingTextStyle depth) l.text }) ∘
          Spot.mapLook (fun l => { l with heading := some (.ofDepth depth) }) := by
      funext p
      simp [Spot.mapLook, Kind.lend, hopt]
    rw [hlend, ← List.map_map]
    exact hhead.pushText (headingTextStyle depth)
  · rename_i hopt
    have hlend : Kind.lend s (.heading depth) =
        fun l => { l with heading := some (.ofDepth depth) } := by
      funext l
      simp [Kind.lend, hopt]
    rw [hlend]
    exact hhead

end

theorem piecesAll_top (s : Setting) (kind : Kind) (ns : List Node) :
    piecesAll s ([] ++ [kind]) ns = (piecesAll s [] ns).map (Piece.under [kind]) :=
  piecesAll_under s [kind] [] ns

theorem itemPieces_top (s : Setting) (kind : Kind) (start : Option Nat) (k : Nat) (ns : List Node) :
    itemPieces s ([] ++ [kind]) start k ns =
      (itemPieces s [] start k ns).map (Piece.under [kind]) :=
  itemPieces_under s [kind] [] start k ns

mutual

/-- A node writes its pieces. Each case is one step of the lemmas above behind the children. -/
theorem emit_writes (s : Setting) : (n : Node) → (d : Draft) →
    Writes s (n.pieces s []) d (n.emit s d)
  | .mk id kind children, d => by
    have hall := emitAll_writes s children d
    cases kind with
    | document | tableRow | tableCell =>
      simp only [Node.pieces, Node.emit, piecesAll_top]
      exact hall.under _ rfl
    | list start =>
      have hitems := emitItems_writes s start 0 children d
      simp only [Node.pieces, Node.emit, itemPieces_top]
      refine Writes.under ?_ _ rfl
      simpa using hitems
    | listItem =>
      have hitem := (writes_insert s d (s.itemMark none)).trans (emitAll_writes s children _)
      simp only [Node.pieces, Node.emit, piecesAll_top]
      exact hitem.under .listItem rfl
    | heading depth =>
      have hend := hall.trans (writes_terminate s _)
      have hlt : d.index < (emitAll s children d).terminate.index := by
        have h1 := hall.1
        have h2 := (writes_terminate s (emitAll s children d)).1
        simp [render, Piece.spots, Piece.lineEnd, Piece.plain] at h2
        have h3 : Text.units "\n" = 1 := by decide
        omega
      simp only [Node.pieces, Node.emit, piecesAll_top]
      simpa [Piece.lineEnd, Piece.plain, Piece.under] using hend.headingSince hlt depth
    | paragraph =>
      have hend := hall.trans (writes_terminate s _)
      simp only [Node.pieces, Node.emit, piecesAll_top]
      simpa [Piece.lineEnd, Piece.plain, Piece.under] using hend.under .paragraph rfl
    | text value => simpa only [Node.pieces, Node.emit] using writes_insert s d value
    | inlineCode value => simpa only [Node.pieces, Node.emit] using writes_inlineCode s d value
    -- A style comes behind the children, and goes over all that they have written.
    | strong | emphasis | link url =>
      simp only [Node.pieces, Node.emit, piecesAll_top]
      exact hall.styleSince rfl
    | image url alt =>
      simp only [Node.pieces, Node.emit]
      split
      · exact writes_insertImage s d url
      · exact writes_insert s d alt
    | code lang value =>
      simpa only [Node.pieces, Node.emit] using writes_insertCode s id lang value d
    | table source => simpa only [Node.pieces, Node.emit] using writes_insertTable s _ d

theorem emitAll_writes (s : Setting) : (ns : List Node) → (d : Draft) →
    Writes s (piecesAll s [] ns) d (emitAll s ns d)
  | [], d => by simpa only [piecesAll, emitAll] using Writes.refl s d
  | n :: ns, d => by
    simpa only [piecesAll, emitAll] using (emit_writes s n d).trans (emitAll_writes s ns _)

theorem emitItems_writes (s : Setting) (start : Option Nat) (k : Nat) :
    (ns : List Node) → (d : Draft) →
      Writes s (itemPieces s [] start k ns) d (emitItems s (start.map (· + k)) ns d)
  | [], d => by simpa only [itemPieces, emitItems] using Writes.refl s d
  | .mk _ _ children :: ns, d => by
    have hmark := writes_insert s d (s.itemMark (start.map (· + k)))
    have hitem := (hmark.trans (emitAll_writes s children _)).under .listItem rfl
    have hrest := emitItems_writes s start (k + 1) ns
      (emitAll s children (d.insert (s.itemMark (start.map (· + k)))))
    have hnext : (start.map (· + k)).map (· + 1) = start.map (· + (k + 1)) := by
      cases start <;> rfl
    simp only [itemPieces, emitItems, piecesAll_top, hnext]
    simpa [Piece.plain, Piece.under] using hitem.trans hrest

end

theorem Writes.carryOut_requests {s : Setting} {ps : List Piece} {e : Draft}
    (h : Writes s ps .empty e) :
    carryOut e.requests [] = some (render s (markerView s) 0 ps) := by
  obtain ⟨-, -, rs, hrs, hw⟩ := h
  have hreq : e.requests = rs := hrs
  rw [hreq]
  exact hw.carryOut_eq

theorem Writes.plans_eq {s : Setting} {ps : List Piece} {e : Draft} (h : Writes s ps .empty e) :
    e.plans = plansFrom 0 ps := h.2.1

/-- The structure batch of a document, carried out on an empty one, writes what the tree says. Among that
are the numbers of items, as far as 64 bits can hold them. -/
theorem carryOut_compile (doc : Document) (assets : AssetMap) (options : ExportOptions) :
    let s : Setting := ⟨doc.fingerprint, assets, options⟩
    carryOut (doc.compile assets options).requests [] = some (render s (markerView s) 0 (doc.pieces s)) ∧
      ∀ first k : Nat, first + k < Nat.pow 2 64 →
        s.itemMark (some (first + k)) = (first + k).repr ++ ". " :=
  ⟨(emit_writes ⟨doc.fingerprint, assets, options⟩ doc.root .empty).carryOut_requests,
    fun _ _ => Setting.itemMark_number _⟩

end Folio
