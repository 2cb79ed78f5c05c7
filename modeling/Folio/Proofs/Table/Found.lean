import Folio.Proofs.Remote.Reading
import Folio.Proofs.Table.Marking
import Folio.Proofs.Table.Sites
/-!
The markers that are found in a document of text and pictures. A snapshot has them line by line;
here they are tied to the positions of the document itself (`read_markers`), and then to the places
where the structure batch has put them (`hits_render`).
-/
set_option autoImplicit false

namespace Folio

open Edit Snapshot Remote

namespace Remote

def chars (gs : List Glyph) : List Char :=
  gs.filterMap fun
    | .char c => some c
    | _ => none

@[simp] theorem chars_append (as bs : List Glyph) : chars (as ++ bs) = chars as ++ chars bs :=
  List.filterMap_append

@[simp] theorem chars_cons_char (c : Char) (gs : List Glyph) :
    chars (.char c :: gs) = c :: chars gs := rfl

theorem chars_glyphsOfChar (c : Char) : chars (glyphsOfChar c) = [c] := by
  simp only [chars, glyphsOfChar, List.filterMap_cons, List.filterMap_replicate]

theorem chars_glyphsOfChars (cs : List Char) : chars (glyphsOfChars cs) = cs := by
  induction cs with
  | nil => rfl
  | cons c cs ih =>
    rw [glyphsOfChars, List.flatMap_cons, chars_append, chars_glyphsOfChar]
    exact congrArg _ ih

theorem glyphs_append (as bs : Content) : glyphs (as ++ bs) = glyphs as ++ glyphs bs :=
  List.map_append

theorem glyphs_inLook (look : Look) (gs : List Glyph) : glyphs (inLook look gs) = gs := by
  simp [glyphs, inLook, Function.comp_def]

/-- Positions that hold text and pictures only. -/
inductive Flat : List Glyph → Prop where
  | nil : Flat []
  | char (c : Char) {gs : List Glyph} (h : Flat gs) : Flat (glyphsOfChar c ++ gs)
  | image (uri : String) (size : Option Size) {gs : List Glyph} (h : Flat gs) :
    Flat (.image uri size :: gs)

theorem Flat.append {as bs : List Glyph} (h : Flat as) (h' : Flat bs) : Flat (as ++ bs) := by
  induction h with
  | nil => exact h'
  | char c h ih =>
    rw [List.append_assoc]
    exact .char c ih
  | image uri size h ih => exact .image uri size ih

theorem flat_glyphsOf (text : String) : Flat (glyphsOf text) := by
  rw [glyphsOf]
  generalize text.toList = cs
  induction cs with
  | nil => exact .nil
  | cons c cs ih => exact .char c ih

end Remote

def MarkerMatch.at (p : Nat) (r : Nat × Nat) : MarkerMatch := ⟨r.1, p, p + r.2, 0⟩

def hits (key : List Char) (p : Nat) : List Glyph → List MarkerMatch
  | [] => []
  | .char c :: gs =>
    (markerAt? key (c :: chars gs)).toList.map (.at p) ++ hits key (p + 1) gs
  | .trail :: gs | .image .. :: gs | .tableStart :: gs | .rowStart :: gs | .cellStart :: gs
  | .tableStop :: gs => hits key (p + 1) gs

theorem markersIn_cons (key : List Char) (p : Nat) (c : Char) (cs : List Char) :
    markersIn key 0 p (c :: cs) =
      (markerAt? key (c :: cs)).toList.map (.at p) ++
        markersIn key 0 (p + Text.charUnits c) cs := by
  rw [markersIn]
  split <;> rename_i h <;> rw [h] <;> rfl

/-- No marker follows a picture in its line. -/
def Unmixed (key : List Char) (gs : List Glyph) : Prop :=
  ∀ before uri size after, gs = before ++ .image uri size :: after →
    ∀ pre post, chars after = pre ++ post → '\n' ∉ pre → markerAt? key post = none

theorem Unmixed.of_append {key : List Char} {as bs : List Glyph} (h : Unmixed key (as ++ bs)) :
    Unmixed key bs := by
  intro before uri size after hbs
  exact h (as ++ before) uri size after (by rw [hbs, List.append_assoc])

/-! Elements from `p` on that begin with a line of text, up to the line feed. -/

def BeginsWith (p : Nat) (text : List Char) (es rest : List Snapshot.Element) : Prop :=
  (text = [] ∧ es = [] ∧ rest = []) ∨
    ∃ stop t, t.toList = text ∧ es = .line p stop t :: rest

section

variable {key : List Char} {p q : Nat} {text : List Char} {es rest : List Snapshot.Element}

theorem markers_line (key : List Char) (p stop : Nat) (t : String) :
    (Snapshot.Element.line p stop t).markers key 0 = markersIn key 0 p t.toList := by
  simp [Snapshot.Element.line, Snapshot.Element.markers, Snapshot.Element.text,
    Snapshot.Element.paragraph, String.join]

theorem BeginsWith.markers (h : BeginsWith p text es rest) :
    elementsMarkers key 0 es = markersIn key 0 p text ++ elementsMarkers key 0 rest := by
  rcases h with ⟨rfl, rfl, rfl⟩ | ⟨stop, t, rfl, rfl⟩
  · rfl
  · rw [elementsMarkers, markers_line]

theorem BeginsWith.join (h : BeginsWith q text es rest) (p : Nat) (front : String) :
    BeginsWith p (front.toList ++ text) (Remote.join p front es) rest := by
  rcases h with ⟨rfl, rfl, rfl⟩ | ⟨stop, t, rfl, rfl⟩
  · exact .inr ⟨p + 1, front, by simp, rfl⟩
  · refine .inr ⟨stop, front ++ t, by simp, ?_⟩
    simp [Remote.join, Snapshot.Element.line, Snapshot.Element.paragraph, Snapshot.Element.text,
      Snapshot.Element.stop, Snapshot.Element.table, String.join]

theorem markersIn_eq_nil {depth : Nat}
    (h : ∀ pre post, text = pre ++ post → markerAt? key post = none) :
    markersIn key depth p text = [] := by
  induction text generalizing p with
  | nil => rfl
  | cons c cs ih =>
    rw [markersIn]
    simp only [h [] (c :: cs) rfl]
    exact ih fun pre post hcs => h (c :: pre) post (by rw [hcs, List.cons_append])

theorem eq_append_of_firstLine {pre post : List Char} (h : firstLine text = pre ++ post)
    (hpost : post ≠ []) :
    ∃ tail, text = pre ++ tail ∧ '\n' ∉ pre ∧ post = firstLine tail := by
  induction pre generalizing text with
  | nil => exact ⟨text, rfl, List.not_mem_nil, h.symm⟩
  | cons a pre ih =>
    cases text with
    | nil => cases h
    | cons c cs =>
      by_cases hc : c = '\n'
      · rw [firstLine, if_pos hc, List.cons_append, List.cons.injEq, List.nil_eq_append_iff] at h
        exact absurd h.2.2 hpost
      · rw [firstLine, if_neg hc, List.cons_append, List.cons.injEq] at h
        obtain ⟨tail, rfl, hpre, htail⟩ := ih h.2
        refine ⟨tail, by rw [h.1, List.cons_append], ?_, htail⟩
        rw [List.mem_cons, not_or]
        exact ⟨fun ha => hc (h.1.trans ha.symm), hpre⟩

/-- What is taken of a line by its markers is taken of all the text behind it. -/
theorem markersIn_firstLine_eq_nil (hkey : IsKey key) {depth : Nat}
    (h : ∀ pre post, text = pre ++ post → '\n' ∉ pre → markerAt? key post = none) :
    markersIn key depth p (firstLine text) = [] := by
  refine markersIn_eq_nil fun pre post hline => ?_
  by_cases hpost : post = []
  · subst hpost
    cases hr : markerAt? key [] with
    | none => rfl
    | some r =>
      obtain ⟨digits, rest, -, -, hnil⟩ := eq_markerText_of_markerAt? hr
      simp [markerText] at hnil
  · obtain ⟨tail, htext, hpre, rfl⟩ := eq_append_of_firstLine hline hpost
    rw [markerAt?_firstLine hkey]
    exact h pre tail htext hpre

theorem markerAt?_lineFeed (cs : List Char) : markerAt? key ('\n' :: cs) = none := by
  cases h : markerAt? key ('\n' :: cs) with
  | none => rfl
  | some r =>
    obtain ⟨digits, rest, -, -, hcs⟩ := eq_markerText_of_markerAt? h
    have hfirst : markerStart.toList = '[' :: "[QUIRE_TABLE_".toList := by decide
    simp [markerText, hfirst] at hcs

theorem beginsWith_trails {gs : List Glyph} (n : Nat)
    (h : BeginsWith (p + n) text (read (p + n) gs).elements rest) :
    BeginsWith p text (read p (List.replicate n .trail ++ gs)).elements rest := by
  induction n generalizing p with
  | zero => exact h
  | succ n ih =>
    rw [Nat.add_comm n, ← Nat.add_assoc] at h
    exact (ih h).join p ""

theorem hits_trails (n : Nat) (gs : List Glyph) :
    hits key p (List.replicate n .trail ++ gs) = hits key (p + n) gs := by
  induction n generalizing p with
  | zero => rfl
  | succ n ih =>
    rw [List.replicate_succ, List.cons_append, hits, ih, Nat.add_comm n, Nat.add_assoc]

theorem chars_trails (n : Nat) (gs : List Glyph) :
    chars (List.replicate n .trail ++ gs) = chars gs := by
  rw [chars_append, chars, List.filterMap_replicate]
  rfl

theorem read_char (hkey : IsKey key) {c : Char} {gs : List Glyph}
    (h : BeginsWith (p + Text.charUnits c) (firstLine (chars gs))
      (read (p + Text.charUnits c) gs).elements rest)
    (hmarkers : elementsMarkers key 0 (read (p + Text.charUnits c) gs).elements =
      hits key (p + Text.charUnits c) gs) :
    (∃ rest', BeginsWith p (firstLine (chars (glyphsOfChar c ++ gs)))
        (read p (glyphsOfChar c ++ gs)).elements rest') ∧
      elementsMarkers key 0 (read p (glyphsOfChar c ++ gs)).elements =
        hits key p (glyphsOfChar c ++ gs) := by
  have hunits : 1 + (Text.charUnits c - 1) = Text.charUnits c := by
    have := Text.charUnits_pos c
    omega
  have hglyphs : glyphsOfChar c ++ gs =
      .char c :: (List.replicate (Text.charUnits c - 1) .trail ++ gs) := rfl
  have hchars : chars (glyphsOfChar c ++ gs) = c :: chars gs := by
    rw [chars_append, chars_glyphsOfChar, List.singleton_append]
  have hhits : hits key p (glyphsOfChar c ++ gs) =
      (markerAt? key (c :: chars gs)).toList.map (.at p) ++ hits key (p + Text.charUnits c) gs := by
    rw [hglyphs, hits, chars_trails, hits_trails, Nat.add_assoc, hunits]
  rw [hhits, hchars]
  by_cases hc : c = '\n'
  · subst hc
    have helements : (read p (glyphsOfChar '\n' ++ gs)).elements =
        .line p (p + 1) "\n" :: (read (p + 1) gs).elements := rfl
    rw [helements]
    refine ⟨⟨_, .inr ⟨p + 1, "\n", rfl, rfl⟩⟩, ?_⟩
    rw [elementsMarkers, markers_line, markerAt?_lineFeed]
    simp only [String.reduceToList, markersIn, markerAt?_lineFeed, List.nil_append]
    exact hmarkers
  · have hline : firstLine (c :: chars gs) = c :: firstLine (chars gs) := by
      rw [firstLine, if_neg hc]
    have hbegins : BeginsWith p (c :: firstLine (chars gs)) (read p (glyphsOfChar c ++ gs)).elements
        rest := by
      rw [← hunits, ← Nat.add_assoc] at h
      have hjoin := (beginsWith_trails _ h).join p (String.singleton c)
      rw [hglyphs, Remote.read, Reading.step]
      simpa [hc] using hjoin
    rw [hline]
    refine ⟨⟨rest, hbegins⟩, ?_⟩
    rw [hbegins.markers, markersIn_cons, ← hline, markerAt?_firstLine hkey, ← hmarkers, h.markers,
      List.append_assoc]

end

theorem read_markers {key : List Char} (hkey : IsKey key) {gs : List Glyph} (h : Flat gs)
    (hclear : Unmixed key gs) (p : Nat) :
    (∃ rest, BeginsWith p (firstLine (chars gs)) (read p gs).elements rest) ∧
      elementsMarkers key 0 (read p gs).elements = hits key p gs := by
  induction h generalizing p with
  | nil => exact ⟨⟨[], .inl ⟨rfl, rfl, rfl⟩⟩, rfl⟩
  | char c h ih =>
    obtain ⟨⟨rest, hbegins⟩, hmarkers⟩ := ih hclear.of_append (p + Text.charUnits c)
    exact read_char hkey hbegins hmarkers
  -- A picture moves the line one to the left, so no marker may be found in it before or after.
  | @image uri size gs h ih =>
    have hrest := @Unmixed.of_append key [.image uri size] gs hclear
    obtain ⟨⟨rest, hbegins⟩, hmarkers⟩ := ih hrest (p + 1)
    have hjoin := hbegins.join p ""
    have hnone : ∀ q, markersIn key 0 q (firstLine (chars gs)) = [] := fun q =>
      markersIn_firstLine_eq_nil hkey (hclear [] uri size gs rfl)
    have hsame : elementsMarkers key 0 (Remote.join p "" (read (p + 1) gs).elements) =
        elementsMarkers key 0 (read (p + 1) gs).elements := by
      rw [hjoin.markers, hbegins.markers, hnone]
      simp only [String.toList_empty, List.nil_append, hnone]
    exact ⟨⟨rest, hjoin⟩, hsame.trans hmarkers⟩

def markedText (s : Setting) (ps : List Piece) : List Char :=
  chars (glyphs (render s (markerView s) 0 ps))

/-- Nothing in the text looks like a marker of the document but the markers put there for its
tables. -/
def OnlyOwnMarkers (s : Setting) (ps : List Piece) : Prop :=
  ∀ pre digits post, markedText s ps = pre ++ markerText s.fingerprint.toList digits ++ post →
    IsOrdinal digits → ∃ before above node after,
      ps = before ++ ⟨above, .table node⟩ :: after ∧ pre = markedText s before

/-- Between a picture and a marker behind it a paragraph ends. -/
def NoPictureBeforeMarker (s : Setting) (ps : List Piece) : Prop :=
  ∀ before above node after, ps = before ++ ⟨above, .table node⟩ :: after →
    ∀ front uri size back,
      glyphs (render s (markerView s) 0 before) = front ++ .image uri size :: back →
        '\n' ∈ chars back

section

variable {s : Setting}

theorem glyphs_spots_table (s : Setting) (above : List Kind) (node : Node) (ordinal : Nat) :
    glyphs ((Piece.mk above (.table node)).spots s (markerView s) ordinal) =
      glyphsOfChars (markerText s.fingerprint.toList (Nat.toDigits 10 ordinal)) := by
  simp only [Piece.spots, markerView, glyphs_inLook, glyphsOf, toList_placeholder]

theorem flat_render (s : Setting) (ordinal : Nat) (ps : List Piece) :
    Flat (glyphs (render s (markerView s) ordinal ps)) := by
  induction ps generalizing ordinal with
  | nil => exact .nil
  | cons p ps ih =>
    rw [render, glyphs_append]
    refine Flat.append ?_ (ih _)
    obtain ⟨above, matter⟩ := p
    cases matter with
    | picture uri =>
      simp only [Piece.spots, glyphs_inLook]
      exact .image uri _ .nil
    | _ =>
      simp only [Piece.spots, markerView, glyphs_inLook]
      exact flat_glyphsOf _

theorem markedText_append (s : Setting) (ps qs : List Piece) :
    markedText s (ps ++ qs) =
      markedText s ps ++ chars (glyphs (render s (markerView s) (tablesCounted ps) qs)) := by
  rw [markedText, render_append, glyphs_append, chars_append, Nat.zero_add]
  rfl

theorem markerText_eq_cons (key digits : List Char) : ∃ cs, markerText key digits = '[' :: cs := by
  have hfirst : markerStart.toList = '[' :: "[QUIRE_TABLE_".toList := by decide
  simp only [markerText, hfirst, List.cons_append]
  exact ⟨_, rfl⟩

theorem OnlyOwnMarkers.exists_table {ps : List Piece} (h : OnlyOwnMarkers s ps)
    {pre post : List Char} (htext : markedText s ps = pre ++ post)
    (hmarker : markerAt? s.fingerprint.toList post ≠ none) :
    ∃ before above node after,
      ps = before ++ ⟨above, .table node⟩ :: after ∧ pre = markedText s before := by
  obtain ⟨r, hr⟩ := Option.ne_none_iff_exists'.1 hmarker
  obtain ⟨digits, rest, hdigits, -, rfl⟩ := eq_markerText_of_markerAt? hr
  exact h pre digits rest (by rw [htext, List.append_assoc]) hdigits

theorem unmixed_render {ps : List Piece} (hown : OnlyOwnMarkers s ps)
    (hpictures : NoPictureBeforeMarker s ps) :
    Unmixed s.fingerprint.toList (glyphs (render s (markerView s) 0 ps)) := by
  intro front uri size back hsplit pre post hback hpre
  refine Classical.byContradiction fun hmarker => ?_
  have htext : markedText s ps = (chars front ++ pre) ++ post := by
    rw [markedText, hsplit, chars_append, List.append_assoc, ← hback]
    rfl
  obtain ⟨before, above, node, after, rfl, hbefore⟩ := hown.exists_table htext hmarker
  -- The marker begins with a character, so the picture stands before it.
  obtain ⟨cs, hcs⟩ := markerText_eq_cons s.fingerprint.toList
    (Nat.toDigits 10 (0 + tablesCounted before))
  rw [render_append, glyphs_append, render, glyphs_append, glyphs_spots_table, hcs] at hsplit
  rcases List.append_eq_append_iff.1 hsplit with ⟨x, hfront, hx⟩ | ⟨x, hfront, hx⟩
  · have hnil : chars x = [] := by
      rw [hfront, chars_append, List.append_assoc] at hbefore
      have hlen := congrArg List.length hbefore
      rw [markedText, List.length_append, List.length_append] at hlen
      exact List.eq_nil_of_length_eq_zero (by omega)
    cases x with
    | nil => cases hx
    | cons g x =>
      obtain ⟨rfl, -⟩ := List.cons.inj hx
      cases hnil
  · cases x with
    | nil => cases hx
    | cons g x =>
      cases hx
      have hline := hpictures before above node after rfl front uri size _ hfront
      rw [markedText, hfront, chars_append] at hbefore
      exact hpre ((List.append_cancel_left hbefore) ▸ hline)

theorem hits_append {key : List Char} {p : Nat} {as bs : List Glyph}
    (h : ∀ front c back, as = front ++ .char c :: back →
      markerAt? key (c :: (chars back ++ chars bs)) = none) :
    hits key p (as ++ bs) = hits key (p + as.length) bs := by
  induction as generalizing p with
  | nil => rfl
  | cons g as ih =>
    have hrest := @ih (p + 1) fun front c back has => h (g :: front) c back (by rw [has]; rfl)
    rw [List.length_cons, Nat.add_comm as.length, ← Nat.add_assoc, ← hrest]
    cases g with
    | char c =>
      have hnone := h [] c as rfl
      rw [← chars_append] at hnone
      rw [List.cons_append, hits, hnone]
      rfl
    | _ => rfl

/-- A marker begins nowhere but where the piece of a table does. -/
theorem markerAt?_inside {done ps : List Piece} {q : Piece}
    (hown : OnlyOwnMarkers s (done ++ q :: ps)) {front back : List Glyph} {c : Char}
    (hq : glyphs (q.spots s (markerView s) (tablesCounted done)) = front ++ .char c :: back)
    (hfront : ∀ node, q.node? = some node → chars front ≠ []) :
    markerAt? s.fingerprint.toList (c :: (chars back ++
      chars (glyphs (render s (markerView s) (tablesCounted done + q.tableCount) ps)))) = none := by
  refine Classical.byContradiction fun hmarker => ?_
  have htext : markedText s (done ++ q :: ps) = (markedText s done ++ chars front) ++
      (c :: (chars back ++
        chars (glyphs (render s (markerView s) (tablesCounted done + q.tableCount) ps)))) := by
    rw [markedText_append, render, glyphs_append, hq]
    simp only [chars_append, chars_cons_char, List.append_assoc, List.cons_append]
  obtain ⟨before, above, node, after, hsplit, hbefore⟩ := hown.exists_table htext hmarker
  -- The table found is `q`, or it is before or behind it, where the lengths of the texts forbid it.
  have hlen := congrArg List.length hbefore
  rw [List.length_append] at hlen
  rcases List.append_eq_append_iff.1 hsplit with ⟨x, rfl, hx⟩ | ⟨x, rfl, hx⟩
  · cases x with
    | nil =>
      obtain ⟨rfl, -⟩ := List.cons.inj hx
      rw [List.append_nil] at hlen
      exact hfront node rfl (List.eq_nil_of_length_eq_zero (by omega))
    | cons q' x =>
      obtain ⟨rfl, -⟩ := List.cons.inj hx
      rw [markedText_append, render, glyphs_append, hq] at hlen
      simp only [chars_append, chars_cons_char, List.length_append, List.length_cons] at hlen
      omega
  · cases x with
    | nil =>
      obtain ⟨rfl, -⟩ := List.cons.inj hx
      rw [List.append_nil] at hlen
      exact hfront node rfl (List.eq_nil_of_length_eq_zero (by omega))
    | cons q' x =>
      obtain ⟨rfl, -⟩ := List.cons.inj hx
      obtain ⟨cs, hcs⟩ := markerText_eq_cons s.fingerprint.toList
        (Nat.toDigits 10 (tablesCounted before))
      rw [markedText_append, render, glyphs_append, glyphs_spots_table, hcs] at hlen
      simp only [chars_append, chars_glyphsOfChars, List.length_append, List.length_cons] at hlen
      omega

def Site.marker (s : Setting) (site : Site) : MarkerMatch :=
  ⟨site.ordinal, site.position,
    site.position + Text.units (placeholder s.fingerprint site.ordinal), 0⟩

theorem units_placeholder (hkey : IsKey s.fingerprint.toList) (ordinal : Nat) :
    Text.units (placeholder s.fingerprint ordinal) =
      (markerText s.fingerprint.toList (Nat.toDigits 10 ordinal)).length := by
  rw [Text.units, toList_placeholder]
  exact unitsOf_eq_length fun c hc => (mem_markerText hkey (isOrdinal_toDigits ordinal) hc).2

/-- The marker of a table is found where its piece begins, and no other in that piece. -/
theorem hits_table (hkey : IsKey s.fingerprint.toList) {done ps : List Piece} {above : List Kind}
    {node : Node} (hown : OnlyOwnMarkers s (done ++ ⟨above, .table node⟩ :: ps))
    (hbound : tablesCounted done < ordinalBound) (p : Nat) :
    hits s.fingerprint.toList p
        (glyphs ((Piece.mk above (.table node)).spots s (markerView s) (tablesCounted done)) ++
          glyphs (render s (markerView s) (tablesCounted done + 1) ps)) =
      Site.marker s ⟨tablesCounted done, p, node⟩ ::
        hits s.fingerprint.toList (p + Text.units (placeholder s.fingerprint (tablesCounted done)))
          (glyphs (render s (markerView s) (tablesCounted done + 1) ps)) := by
  obtain ⟨cs, hcs⟩ := markerText_eq_cons s.fingerprint.toList (Nat.toDigits 10 (tablesCounted done))
  have hglyphs :
      glyphs ((Piece.mk above (.table node)).spots s (markerView s) (tablesCounted done)) =
        .char '[' :: glyphsOfChars cs := by
    rw [glyphs_spots_table, hcs]
    rfl
  have hmarker : ∀ rest, markerAt? s.fingerprint.toList ('[' :: (cs ++ rest)) =
      some (tablesCounted done, Text.units (placeholder s.fingerprint (tablesCounted done))) := by
    intro rest
    have hvalue := valueOfDigits_toDigits (tablesCounted done)
    have h := markerAt?_markerText hkey (isOrdinal_toDigits (tablesCounted done))
      (by rw [hvalue]; exact hbound) rest
    rwa [hcs, List.cons_append, hvalue, ← hcs, ← units_placeholder hkey] at h
  have hrest := @hits_append s.fingerprint.toList (p + 1) (glyphsOfChars cs)
    (glyphs (render s (markerView s) (tablesCounted done + 1) ps)) fun front c back hfront => by
      have hsplit := hglyphs
      rw [hfront, ← List.cons_append] at hsplit
      exact markerAt?_inside hown hsplit (by simp)
  have hunits : p + 1 + (glyphsOfChars cs).length =
      p + Text.units (placeholder s.fingerprint (tablesCounted done)) := by
    have hlen := congrArg List.length hglyphs
    simp only [glyphs, List.length_map, Piece.spots, markerView, inLook_length, glyphsOf_length,
      List.length_cons] at hlen
    omega
  rw [hglyphs, List.cons_append, hits, hrest, hunits, chars_append, chars_glyphsOfChars, hmarker]
  rfl

theorem hits_render (hkey : IsKey s.fingerprint.toList) {done ps : List Piece}
    (hown : OnlyOwnMarkers s (done ++ ps)) (hbound : tablesCounted (done ++ ps) ≤ ordinalBound)
    (p : Nat) :
    hits s.fingerprint.toList p (glyphs (render s (markerView s) (tablesCounted done) ps)) =
      (sites s (markerView s) (tablesCounted done) p ps).map (Site.marker s) := by
  induction ps generalizing done p with
  | nil => rfl
  | cons q ps ih =>
    have hcount : tablesCounted (done ++ [q]) = tablesCounted done + q.tableCount := by
      simp [tablesCounted]
    have hassoc : done ++ q :: ps = (done ++ [q]) ++ ps := by simp
    have hrest := @ih (done ++ [q]) (hassoc ▸ hown) (hassoc ▸ hbound)
    rw [hcount] at hrest
    rw [render, glyphs_append, sites, List.map_append, ← hrest]
    obtain ⟨above, matter⟩ := q
    cases matter with
    | table node =>
      have hk : tablesCounted done < ordinalBound := by
        simp [tablesCounted, Piece.tableCount] at hbound ⊢
        omega
      have h := hits_table hkey hown hk p
      simpa [Piece.tableCount, Piece.spots, markerView, Piece.node?] using h
    | _ =>
      rw [hits_append fun front c back hfront =>
        markerAt?_inside hown hfront (by simp [Piece.node?])]
      simp [glyphs, Piece.node?]

/-- Two brackets of which the first one is in a marker are the first two characters of that marker. -/
theorem eq_nil_of_markerText_brackets {key digits : List Char} (hkey : IsKey key)
    (hdigits : IsOrdinal digits) {pre inside behind post : List Char}
    (hmarker : markerText key digits = pre ++ '[' :: inside)
    (hbracket : '[' :: post = inside ++ behind) : pre = [] := by
  obtain ⟨c, cs, hcs, hnot⟩ := exists_markerText_brackets hkey hdigits
  rw [hcs] at hmarker
  cases pre with
  | nil => rfl
  | cons a pre =>
    obtain ⟨-, hmarker⟩ := List.cons.inj hmarker
    cases pre with
    | nil =>
      obtain ⟨-, rfl⟩ := List.cons.inj hmarker
      obtain ⟨rfl, -⟩ := List.cons.inj hbracket
      exact absurd List.mem_cons_self hnot
    | cons a' pre =>
      obtain ⟨-, hmarker⟩ := List.cons.inj hmarker
      exact absurd (by rw [hmarker]; simp) hnot

theorem exists_table_of_brackets (hkey : IsKey s.fingerprint.toList) {ps : List Piece}
    (h : ∀ q ∈ ps, ∀ tone value, q.matter = .text tone value → '[' ∉ value.toList) (ordinal : Nat)
    {pre post : List Char}
    (htext : chars (glyphs (render s (markerView s) ordinal ps)) = pre ++ '[' :: '[' :: post) :
    ∃ before above node after, ps = before ++ ⟨above, .table node⟩ :: after ∧
      pre = chars (glyphs (render s (markerView s) ordinal before)) := by
  induction ps generalizing ordinal pre with
  | nil => simp [render, glyphs, chars] at htext
  | cons q ps ih =>
    rw [List.forall_mem_cons] at h
    have hnext : ∀ pre', chars (glyphs (render s (markerView s) (ordinal + q.tableCount) ps)) =
        pre' ++ '[' :: '[' :: post →
        pre = chars (glyphs (q.spots s (markerView s) ordinal)) ++ pre' →
        ∃ before above node after, q :: ps = before ++ ⟨above, .table node⟩ :: after ∧
          pre = chars (glyphs (render s (markerView s) ordinal before)) := by
      intro pre' htext' hpre
      obtain ⟨before, above, node, after, rfl, rfl⟩ := ih h.2 _ htext'
      refine ⟨q :: before, above, node, after, rfl, ?_⟩
      rw [render, glyphs_append, chars_append, hpre]
    rw [render, glyphs_append, chars_append] at htext
    rcases List.append_eq_append_iff.1 htext with ⟨x, hpre, hx⟩ | ⟨x, hq, hx⟩
    · exact hnext x hx hpre
    · cases x with
      | nil => exact hnext [] hx.symm (by simpa using hq.symm)
      | cons b x =>
        -- The brackets begin within `q`, so it is a table, and they are its first two.
        obtain ⟨rfl, hpost⟩ := List.cons.inj hx
        obtain ⟨above, matter⟩ := q
        cases matter with
        | text tone value =>
          rw [Piece.spots, glyphs_inLook, glyphsOf, chars_glyphsOfChars] at hq
          exact absurd (by rw [hq]; simp) (h.1 tone value rfl)
        | picture uri => simp [Piece.spots, glyphs_inLook, chars] at hq
        | table node =>
          rw [glyphs_spots_table, chars_glyphsOfChars] at hq
          obtain rfl := eq_nil_of_markerText_brackets hkey (isOrdinal_toDigits ordinal) hq hpost
          exact ⟨[], above, node, ps, rfl, rfl⟩

theorem onlyOwnMarkers_of_noBracket (hkey : IsKey s.fingerprint.toList) {ps : List Piece}
    (h : ∀ q ∈ ps, ∀ tone value, q.matter = .text tone value → '[' ∉ value.toList) :
    OnlyOwnMarkers s ps := by
  intro pre digits post htext hdigits
  have hfirst : markerStart.toList = '[' :: '[' :: "QUIRE_TABLE_".toList := by decide
  simp only [markerText, hfirst, List.cons_append, List.append_assoc] at htext
  exact exists_table_of_brackets hkey h 0 htext

theorem noPictureBeforeMarker_of_noPicture {ps : List Piece}
    (h : ∀ q ∈ ps, ∀ uri, q.matter ≠ .picture uri) : NoPictureBeforeMarker s ps := by
  have hglyphs : ∀ (qs : List Piece) (ordinal : Nat), (∀ q ∈ qs, ∀ uri, q.matter ≠ .picture uri) →
      ∀ g ∈ glyphs (render s (markerView s) ordinal qs), ∀ uri size, g ≠ .image uri size := by
    intro qs
    induction qs with
    | nil => simp [render, glyphs]
    | cons q qs ih =>
      intro ordinal hqs g hg uri size himage
      rw [List.forall_mem_cons] at hqs
      rw [render, glyphs_append, List.mem_append] at hg
      rcases hg with hg | hg
      · obtain ⟨above, matter⟩ := q
        cases matter with
        | picture uri => exact hqs.1 uri rfl
        | _ =>
          simp [Piece.spots, markerView, glyphs_inLook, glyphsOf, glyphsOfChars, glyphsOfChar,
            himage] at hg
      · exact ih _ hqs.2 g hg uri size himage
  intro before above node after hps front uri size back hsplit
  have hbefore : ∀ q ∈ before, ∀ uri, q.matter ≠ .picture uri := fun q hq =>
    h q (by rw [hps]; exact List.mem_append_left _ hq)
  have hmem : .image uri size ∈ glyphs (render s (markerView s) 0 before) := by
    rw [hsplit]
    simp
  exact absurd rfl (hglyphs before 0 hbefore _ hmem uri size)

end

end Folio
