import Folio.Proofs.Draft.Steps
import Folio.Proofs.Remote.Rewrite
/-!
The positions of a draft. Every insertion stands right behind all that was inserted before it, and
every style covers some of that: carrying out the requests in order only ever appends. This holds of
any sequence of nodes drafted one after the other (`emitAll_inOrder`), so of every document.
-/
set_option autoImplicit false

namespace Folio

open Edit

namespace Edit

/-- The positions that a request of a draft takes up. -/
def Request.inserted : Request → Nat
  | .insertText _ text => Text.units text
  | .insertImage .. => 1
  | _ => 0

def unitsInserted : List Request → Nat
  | [] => 0
  | r :: rs => r.inserted + unitsInserted rs

/-- Fits a document whose next free position is `index`: an insertion goes to its end, and a style
covers some of what is there. Nothing is deleted, and no table is made. -/
def Request.Fits (index : Nat) : Request → Prop
  | .insertText i text => i = index ∧ text ≠ ""
  | .insertImage i _ _ => i = index
  | .styleParagraph range _ _ | .styleText range _ _ =>
    1 ≤ range.start ∧ range.start < range.stop ∧ range.stop ≤ index
  | .insertTable .. | .delete _ => False

def InOrder (rs : List Request) : Prop :=
  ∀ before r after, rs = before ++ r :: after → r.Fits (1 + unitsInserted before)

@[simp] theorem unitsInserted_append (as bs : List Request) :
    unitsInserted (as ++ bs) = unitsInserted as + unitsInserted bs := by
  induction as with
  | nil => simp [unitsInserted]
  | cons a as ih => simp [unitsInserted, ih]; omega

@[simp] theorem unitsInserted_singleton (r : Request) : unitsInserted [r] = r.inserted := by
  simp [unitsInserted]

theorem InOrder.nil : InOrder [] := by
  intro before r after h
  simp at h

theorem InOrder.concat {rs : List Request} {r : Request} (h : InOrder rs)
    (hr : r.Fits (1 + unitsInserted rs)) : InOrder (rs ++ [r]) := by
  intro before r' after heq
  rcases List.eq_nil_or_concat after with rfl | ⟨after', last, rfl⟩
  · obtain ⟨rfl, hlast⟩ := List.append_inj' heq rfl
    cases hlast
    exact hr
  · have hsplit : rs ++ [r] = (before ++ r' :: after') ++ [last] := by simpa using heq
    obtain ⟨hrs, -⟩ := List.append_inj' hsplit rfl
    exact h before r' after' hrs

end Edit

open Remote

/-- Carrying out the requests only ever appends: behind any first part of them, the rest leaves each
glyph where it is. -/
def OnlyAppends (rs : List Request) : Prop :=
  ∀ before after, rs = before ++ after →
    ∃ c c', carryOut before [] = some c ∧ carryOut after c = some c' ∧
      c.map Spot.glyph <+: c'.map Spot.glyph

theorem replaceRange_mapLook {start stop : Nat} (f : Look → Look) {c : Content}
    (h : 1 ≤ start ∧ start ≤ stop ∧ stop ≤ c.length + 1) :
    ∃ c', replaceRange start stop (List.map (Spot.mapLook f)) c = some c' ∧
      c'.map Spot.glyph = c.map Spot.glyph := by
  refine ⟨_, if_pos h, ?_⟩
  have hglyph : Spot.glyph ∘ Spot.mapLook f = Spot.glyph := rfl
  have hstop : stop - 1 = (start - 1) + (stop - start) := by omega
  rw [List.map_append, List.map_append, List.map_map, hglyph, hstop, ← List.map_append,
    ← List.map_append, List.append_assoc, ← List.drop_drop, List.take_append_drop,
    List.take_append_drop]

theorem replaceRange_end (us c : Content) :
    replaceRange (1 + c.length) (1 + c.length) (fun _ => us) c = some (c ++ us) := by
  have h := @replaceRange_middle (fun _ => us) c [] [] _ _ (Nat.add_comm c.length 1) rfl
  simpa using h

/-- A request that fits is carried out, and moves nothing. -/
theorem applyRequest_of_fits {c : Content} {r : Request} (h : r.Fits (1 + c.length)) :
    ∃ c', applyRequest c r = some c' ∧ c'.length = c.length + r.inserted ∧
      c.map Spot.glyph <+: c'.map Spot.glyph := by
  cases r with
  | insertText i text =>
    obtain ⟨rfl, -⟩ := h
    exact ⟨_, replaceRange_end _ c, by simp [Request.inserted], by simp⟩
  | insertImage i uri size =>
    cases h
    exact ⟨_, replaceRange_end _ c, by simp [Request.inserted], by simp⟩
  | styleParagraph range level fields =>
    obtain ⟨h1, hlt, hle⟩ := h
    have hne : range.isEmpty = false := by simpa [Range.isEmpty] using hlt
    obtain ⟨c', hc', hg⟩ := replaceRange_mapLook (c := c)
      (Look.setHeading (maskNames fields) level) ⟨h1, Nat.le_of_lt hlt, by omega⟩
    refine ⟨c', by rw [applyRequest, hne]; exact hc', ?_, hg ▸ List.prefix_rfl⟩
    simpa [Request.inserted] using congrArg List.length hg
  | styleText range style fields =>
    obtain ⟨h1, hlt, hle⟩ := h
    have hne : range.isEmpty = false := by simpa [Range.isEmpty] using hlt
    obtain ⟨c', hc', hg⟩ := replaceRange_mapLook (c := c)
      (Look.setText (maskNames fields) style) ⟨h1, Nat.le_of_lt hlt, by omega⟩
    refine ⟨c', by rw [applyRequest, hne]; exact hc', ?_, hg ▸ List.prefix_rfl⟩
    simpa [Request.inserted] using congrArg List.length hg
  | insertTable i rows columns => exact h.elim
  | delete range => exact h.elim

/-- Behind a part of the batch that has made a document of the right length, the rest can be carried
out. The induction is on the rest. -/
theorem Edit.InOrder.carryOut_rest {done rest : List Request} (h : InOrder (done ++ rest))
    {c : Content} (hc : c.length = unitsInserted done) :
    ∃ c', carryOut rest c = some c' ∧ c'.length = unitsInserted (done ++ rest) ∧
      c.map Spot.glyph <+: c'.map Spot.glyph := by
  induction rest generalizing done c with
  | nil => exact ⟨c, rfl, by simpa using hc, List.prefix_rfl⟩
  | cons r rest ih =>
    have hfits := h done r rest rfl
    rw [← hc] at hfits
    obtain ⟨d, hd, hlen, hpre⟩ := applyRequest_of_fits hfits
    have hassoc : done ++ r :: rest = (done ++ [r]) ++ rest := by simp
    rw [hassoc] at h
    obtain ⟨c', hc', hlen', hpre'⟩ := ih h (c := d) (by simp [hlen, hc])
    refine ⟨c', ?_, by rw [hassoc]; exact hlen', hpre.trans hpre'⟩
    simp only [carryOut, hd, Option.bind_some, hc']

theorem Edit.InOrder.onlyAppends {rs : List Request} (h : InOrder rs) : OnlyAppends rs := by
  rintro before after rfl
  have hbefore : InOrder ([] ++ before) := by
    intro x r y heq
    refine h x r (y ++ after) ?_
    rw [List.nil_append] at heq
    simp [heq]
  obtain ⟨c, hc, hlen, -⟩ := hbefore.carryOut_rest (c := []) rfl
  obtain ⟨c', hc', -, hpre⟩ := h.carryOut_rest hlen
  exact ⟨c, c', hc, hc', hpre⟩

namespace Draft

/-- The cursor stands behind all that was inserted, and every insertion went there. -/
structure Consistent (d : Draft) : Prop where
  index_eq : d.index = 1 + unitsInserted d.requests
  inOrder : InOrder d.requests

theorem Consistent.empty : Draft.empty.Consistent := ⟨rfl, .nil⟩

theorem Consistent.one_le {d : Draft} (h : d.Consistent) : 1 ≤ d.index := by
  have := h.index_eq
  omega

/-- What drafting does to positions: the cursor never goes back, and consistency is kept. -/
structure Advances (d e : Draft) : Prop where
  le : d.index ≤ e.index
  consistent : d.Consistent → e.Consistent

theorem Advances.refl (d : Draft) : d.Advances d := ⟨Nat.le_refl _, id⟩

theorem Advances.trans {d e f : Draft} (h : d.Advances e) (h' : e.Advances f) : d.Advances f :=
  ⟨Nat.le_trans h.le h'.le, fun hd => h'.consistent (h.consistent hd)⟩

/-- The step that all of drafting consists of: one more request, and the cursor behind it. -/
theorem advances_push (d : Draft) (r : Request) (c : Cursor)
    (hc : c.index = d.index + r.inserted) (hr : 1 ≤ d.index → r.Fits d.index) :
    d.Advances { d.push r with cursor := c } where
  le := by
    change d.index ≤ c.index
    omega
  consistent h := by
    have hreq : ({ d.push r with cursor := c } : Draft).requests = d.requests ++ [r] := by
      simp [requests, push]
    refine ⟨?_, ?_⟩
    · rw [hreq, unitsInserted_append, unitsInserted_singleton]
      change c.index = _
      have := h.index_eq
      omega
    · rw [hreq]
      refine h.inOrder.concat ?_
      rw [← h.index_eq]
      exact hr h.one_le

theorem advances_insert (d : Draft) (text : String) : d.Advances (d.insert text) := by
  unfold insert
  split
  · exact .refl d
  · rename_i h
    refine advances_push d _ _ rfl (fun _ => ⟨rfl, ?_⟩)
    simpa using h

theorem index_lt_terminate (d : Draft) : d.index < d.terminate.index := by
  have h : d.terminate.index = d.index + Text.units "\n" := rfl
  have hpos : Text.units "\n" ≠ 0 := fun h => by simpa using Text.units_eq_zero.1 h
  omega

theorem advances_insertImage (d : Draft) (uri : String) (size : Option Size) :
    d.Advances (d.insertImage uri size) :=
  advances_push d _ _ rfl (fun _ => rfl)

theorem advances_pushText (d : Draft) (start stop : Nat) (style : TextStyle) (h1 : 1 ≤ start)
    (hlt : start < stop) (hle : stop ≤ d.index) :
    d.Advances (d.push (.text ⟨start, stop⟩ style)) :=
  advances_push d _ d.cursor rfl (fun _ => ⟨h1, hlt, hle⟩)

theorem advances_styleSince {d e : Draft} (h : d.Advances e) (style : TextStyle) :
    d.Advances (e.styleSince d.index style) where
  le := by unfold styleSince; split <;> exact h.le
  consistent hd := by
    unfold styleSince
    split
    · exact h.consistent hd
    · rename_i hne
      have hlt : d.index < e.index := by simpa [Range.isEmpty] using hne
      exact (advances_pushText e _ _ style hd.one_le hlt (Nat.le_refl _)).consistent
        (h.consistent hd)

theorem stepwise_advances : Stepwise Advances :=
  ⟨.refl, .trans, advances_insert, fun style h => advances_styleSince h style⟩

theorem advances_headingSince {d e : Draft} (h : d.Advances e) (hlt : d.index < e.index)
    (level : HeadingLevel) : d.Advances (e.headingSince d.index level) where
  le := h.le
  consistent hd := by
    refine (advances_push e (.heading ⟨d.index, e.index⟩ level) e.cursor rfl ?_).consistent
      (h.consistent hd)
    exact fun _ => ⟨hd.one_le, hlt, Nat.le_refl _⟩

theorem advances_planTable (d : Draft) (node : Node) : d.Advances (d.planTable node) :=
  ⟨Nat.le_refl _, fun h => ⟨h.index_eq, h.inOrder⟩⟩

theorem advances_insertTable (s : Setting) (node : Node) (d : Draft) :
    d.Advances (d.insertTable s node) := by
  unfold insertTable
  split
  · exact ((advances_insert d _).trans (stepwise_advances.terminate _)).trans (advances_planTable _ node)
  · split
    · exact stepwise_advances.insertAsset advances_insertImage s node.id d
    · exact stepwise_advances.insertRows node.children d

theorem advances_insertCode (s : Setting) (id : Nat) (lang : Option String) (value : String)
    (d : Draft) : d.Advances (d.insertCode s id lang value) := by
  unfold insertCode
  split
  · exact stepwise_advances.insertAsset advances_insertImage s id d
  · have hv := advances_insert d value
    have ht := hv.trans (stepwise_advances.terminate _)
    dsimp only
    split
    · exact ht
    · rename_i hne
      have hlt : d.index < (d.insert value).index := by simpa [Range.isEmpty] using hne
      refine ⟨ht.le, fun hd => ?_⟩
      exact (advances_pushText _ _ _ codeStyle hd.one_le hlt
        (stepwise_advances.terminate _).le).consistent (ht.consistent hd)

end Draft

open Draft

/-! The recursion over the tree only composes these steps. -/

mutual

theorem emit_advances (s : Setting) : (n : Node) → (d : Draft) → d.Advances (n.emit s d)
  | .mk id kind children, d => by
    have hall := emitAll_advances s children d
    cases kind with
    | document | tableRow | tableCell => simpa only [Node.emit] using hall
    | list start => simpa only [Node.emit] using emitItems_advances s start children d
    | listItem =>
      simpa only [Node.emit] using (advances_insert d _).trans (emitAll_advances s children _)
    | heading depth =>
      have hend := hall.trans (stepwise_advances.terminate _)
      have hlt : d.index < (emitAll s children d).terminate.index :=
        Nat.lt_of_le_of_lt hall.le (index_lt_terminate _)
      have hhead := advances_headingSince hend hlt (.ofDepth depth)
      simp only [Node.emit]
      split
      · exact advances_styleSince hhead _
      · exact hhead
    | paragraph => simpa only [Node.emit] using hall.trans (stepwise_advances.terminate _)
    | text value => simpa only [Node.emit] using advances_insert d value
    | inlineCode value =>
      simpa only [Node.emit] using advances_styleSince (advances_insert d value) _
    | strong | emphasis | link url => simpa only [Node.emit] using advances_styleSince hall _
    | image url alt =>
      simp only [Node.emit]
      split
      · exact advances_insertImage d _ _
      · exact advances_insert d alt
    | code lang value => simpa only [Node.emit] using advances_insertCode s id lang value d
    | table source => simpa only [Node.emit] using advances_insertTable s _ d

theorem emitAll_advances (s : Setting) :
    (ns : List Node) → (d : Draft) → d.Advances (emitAll s ns d)
  | [], d => by simpa only [emitAll] using Advances.refl d
  | n :: ns, d => by
    simpa only [emitAll] using (emit_advances s n d).trans (emitAll_advances s ns _)

theorem emitItems_advances (s : Setting) (number : Option Nat) :
    (ns : List Node) → (d : Draft) → d.Advances (emitItems s number ns d)
  | [], d => by simpa only [emitItems] using Advances.refl d
  | .mk _ _ children :: ns, d => by
    simp only [emitItems]
    exact ((advances_insert d _).trans (emitAll_advances s children _)).trans
      (emitItems_advances s _ ns _)

end

/-- Whatever nodes are drafted one after the other, each request fits what was inserted before it,
the cursor ends behind all that was inserted, and carrying out the batch only ever appends; so it is
for every document. -/
theorem emitAll_inOrder :
    (∀ (s : Setting) (nodes : List Node),
      (emitAll s nodes .empty).Consistent ∧ OnlyAppends (emitAll s nodes .empty).requests) ∧
    (∀ (doc : Document) (assets : AssetMap) (options : ExportOptions),
      (doc.compile assets options).Consistent ∧
        OnlyAppends (doc.compile assets options).requests) := by
  have hall (s : Setting) (nodes : List Node) : (emitAll s nodes .empty).Consistent :=
    (emitAll_advances s nodes .empty).consistent .empty
  refine ⟨fun s nodes => ⟨hall s nodes, (hall s nodes).inOrder.onlyAppends⟩, ?_⟩
  intro doc assets options
  have h := (emit_advances ⟨doc.fingerprint, assets, options⟩ doc.root .empty).consistent .empty
  exact ⟨h, h.inOrder.onlyAppends⟩

end Folio
