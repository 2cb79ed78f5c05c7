import Mathlib.Data.List.Forall2
import Folio.Proofs.Table.Marking
/-!
Where the markers of a snapshot stand, as the elements of their paragraphs say. The search for them
counts the characters of a paragraph from its start, and so it passes over elements without text: each
match starts and stops short of the marker by the positions of such elements before the marker's first
and last character (`markers_displaced`).
-/
set_option autoImplicit false

namespace Folio

namespace Snapshot

/-- A character of a paragraph at the position that its own element gives it; `skipped` positions of
elements without text are before it in the paragraph. -/
structure Letter where
  char : Char
  index : Nat
  skipped : Nat
  deriving Repr, DecidableEq

def lettersOf (index skipped : Nat) : List Char → List Letter
  | [] => []
  | c :: cs => ⟨c, index, skipped⟩ :: lettersOf (index + Text.charUnits c) skipped cs

def letters (skipped : Nat) : List Run → List Letter
  | [] => []
  | ⟨start, stop, none⟩ :: runs => letters (skipped + (stop - start)) runs
  | ⟨start, _, some text⟩ :: runs => lettersOf start skipped text.toList ++ letters skipped runs

/-- Elements one behind the other from one position to another. Text takes the positions of its
characters, and an element without text any number. -/
inductive Tiling : Nat → Nat → List Run → Prop where
  | nil (p : Nat) : Tiling p p []
  | object {p q r : Nat} {runs : List Run} (hle : p ≤ q) (h : Tiling q r runs) :
      Tiling p r (⟨p, q, none⟩ :: runs)
  | text {p q r : Nat} {text : String} {runs : List Run} (hlen : q = p + Text.units text)
      (h : Tiling q r runs) : Tiling p r (⟨p, q, some text⟩ :: runs)

structure Paragraph where
  depth : Nat
  start : Nat
  stop : Nat
  runs : List Run

mutual

def Element.paragraphs (depth : Nat) : Element → List Paragraph
  | .mk start stop paragraph table =>
    paragraph.toList.map (⟨depth, start, stop, ·⟩) ++
      match table with
      | none => []
      | some t => t.paragraphs depth

def Table.paragraphs (depth : Nat) : Table → List Paragraph
  | .mk _ _ rows => rowsParagraphs depth rows

def Row.paragraphs (depth : Nat) : Row → List Paragraph
  | .mk _ _ cells => cellsParagraphs depth cells

def Cell.paragraphs (depth : Nat) : Cell → List Paragraph
  | .mk _ _ content => elementsParagraphs (depth + 1) content

def elementsParagraphs (depth : Nat) : List Element → List Paragraph
  | [] => []
  | e :: es => e.paragraphs depth ++ elementsParagraphs depth es

def rowsParagraphs (depth : Nat) : List Row → List Paragraph
  | [] => []
  | r :: rs => r.paragraphs depth ++ rowsParagraphs depth rs

def cellsParagraphs (depth : Nat) : List Cell → List Paragraph
  | [] => []
  | c :: cs => c.paragraphs depth ++ cellsParagraphs depth cs

end

end Snapshot

open Snapshot

def Snapshot.paragraphs (s : Snapshot) : List Paragraph := elementsParagraphs 0 s.content

/-- The elements of every paragraph fill its positions. -/
def Snapshot.Faithful (s : Snapshot) : Prop := ∀ p ∈ s.paragraphs, Tiling p.start p.stop p.runs

/-- A marker as the characters of a paragraph show it, from its first to its last one. -/
structure Sighting where
  ordinal : Nat
  depth : Nat
  first : Letter
  last : Letter
  deriving Repr, DecidableEq

def Sighting.range (w : Sighting) : Edit.Range := ⟨w.first.index, w.last.index + 1⟩

def sightingsIn (key : List Char) (depth : Nat) : List Letter → List Sighting
  | [] => []
  | l :: ls =>
    let rest := sightingsIn key depth ls
    match markerAt? key ((l :: ls).map Letter.char) with
    | some (n, length) => ⟨n, depth, l, (l :: ls).getD (length - 1) l⟩ :: rest
    | none => rest

def Snapshot.Paragraph.sightings (key : List Char) (p : Paragraph) : List Sighting :=
  sightingsIn key p.depth (letters 0 p.runs)

def Snapshot.sightings (s : Snapshot) (fingerprint : String) : List Sighting :=
  s.paragraphs.flatMap (Paragraph.sightings fingerprint.toList)

namespace Snapshot

def Paragraph.text (p : Paragraph) : String := String.join (p.runs.filterMap (·.text))

def Paragraph.markers (key : List Char) (p : Paragraph) : List MarkerMatch :=
  markersIn key p.depth p.start p.text.toList

theorem markersIn_paragraph (key : List Char) (depth start stop : Nat)
    (paragraph : Option (List Run)) :
    markersIn key depth start (Element.mk start stop paragraph none).text.toList =
      (paragraph.toList.map (⟨depth, start, stop, ·⟩)).flatMap (Paragraph.markers key) := by
  cases paragraph with
  | none => simp [Element.text, Element.paragraph, markersIn]
  | some runs => simp [Element.text, Element.paragraph, Paragraph.markers, Paragraph.text]

mutual

theorem Element.markers_eq (key : List Char) (depth : Nat) : (e : Element) →
    e.markers key depth = (e.paragraphs depth).flatMap (Paragraph.markers key)
  | .mk start stop paragraph none => by
    simp only [Element.markers, Element.paragraphs, List.append_nil]
    exact markersIn_paragraph key depth start stop paragraph
  | .mk start stop paragraph (some t) => by
    simp only [Element.markers, Element.paragraphs, List.flatMap_append, t.markers_eq key depth]
    rw [markersIn_paragraph]

theorem Table.markers_eq (key : List Char) (depth : Nat) : (t : Table) →
    t.markers key depth = (t.paragraphs depth).flatMap (Paragraph.markers key)
  | .mk _ _ rows => rowsMarkers_eq key depth rows

theorem Row.markers_eq (key : List Char) (depth : Nat) : (r : Row) →
    r.markers key depth = (r.paragraphs depth).flatMap (Paragraph.markers key)
  | .mk _ _ cells => cellsMarkers_eq key depth cells

theorem Cell.markers_eq (key : List Char) (depth : Nat) : (c : Cell) →
    c.markers key depth = (c.paragraphs depth).flatMap (Paragraph.markers key)
  | .mk _ _ content => elementsMarkers_eq key (depth + 1) content

theorem elementsMarkers_eq (key : List Char) (depth : Nat) : (es : List Element) →
    elementsMarkers key depth es = (elementsParagraphs depth es).flatMap (Paragraph.markers key)
  | [] => rfl
  | e :: es => by
    rw [elementsMarkers, elementsParagraphs, List.flatMap_append, e.markers_eq,
      elementsMarkers_eq key depth es]

theorem rowsMarkers_eq (key : List Char) (depth : Nat) : (rs : List Row) →
    rowsMarkers key depth rs = (rowsParagraphs depth rs).flatMap (Paragraph.markers key)
  | [] => rfl
  | r :: rs => by
    rw [rowsMarkers, rowsParagraphs, List.flatMap_append, r.markers_eq, rowsMarkers_eq key depth rs]

theorem cellsMarkers_eq (key : List Char) (depth : Nat) : (cs : List Cell) →
    cellsMarkers key depth cs = (cellsParagraphs depth cs).flatMap (Paragraph.markers key)
  | [] => rfl
  | c :: cs => by
    rw [cellsMarkers, cellsParagraphs, List.flatMap_append, c.markers_eq,
      cellsMarkers_eq key depth cs]

end

/-! Positions counted over the text, and those that the elements give. -/

/-- Letters whose text is counted from `p` on: each is further on by what was skipped before it, and
what was skipped only grows. -/
inductive Spaced : Nat → List Letter → Prop where
  | nil (p : Nat) : Spaced p []
  | cons {p : Nat} {l : Letter} {ls : List Letter} (hindex : l.index = p + l.skipped)
      (hle : ∀ l' ∈ ls, l.skipped ≤ l'.skipped) (h : Spaced (p + Text.charUnits l.char) ls) :
      Spaced p (l :: ls)

theorem map_char_lettersOf (index skipped : Nat) (cs : List Char) :
    (lettersOf index skipped cs).map Letter.char = cs := by
  induction cs generalizing index with
  | nil => rfl
  | cons c cs ih => rw [lettersOf, List.map_cons, ih]

theorem map_char_letters (skipped : Nat) (runs : List Run) :
    (letters skipped runs).map Letter.char = (String.join (runs.filterMap (·.text))).toList := by
  induction runs generalizing skipped with
  | nil => rfl
  | cons r runs ih =>
    obtain ⟨start, stop, text⟩ := r
    cases text with
    | none => exact ih _
    | some text =>
      simp [letters, map_char_lettersOf, ih]

theorem skipped_lettersOf (index skipped : Nat) (cs : List Char) :
    ∀ l ∈ lettersOf index skipped cs, l.skipped = skipped := by
  induction cs generalizing index with
  | nil => exact List.forall_mem_nil _
  | cons c cs ih => exact List.forall_mem_cons.2 ⟨rfl, ih _⟩

theorem le_skipped (skipped : Nat) (runs : List Run) :
    ∀ l ∈ letters skipped runs, skipped ≤ l.skipped := by
  induction runs generalizing skipped with
  | nil => exact List.forall_mem_nil _
  | cons r runs ih =>
    obtain ⟨start, stop, text⟩ := r
    cases text with
    | none => exact fun l hl => Nat.le_trans (Nat.le_add_right _ _) (ih _ l hl)
    | some text =>
      exact List.forall_mem_append.2
        ⟨fun l hl => Nat.le_of_eq (skipped_lettersOf _ _ _ l hl).symm, ih skipped⟩

theorem Spaced.lettersOf {p skipped : Nat} {ls : List Letter} (cs : List Char)
    (hle : ∀ l ∈ ls, skipped ≤ l.skipped) (h : Spaced (p + Text.unitsOf cs) ls) :
    Spaced p (lettersOf (p + skipped) skipped cs ++ ls) := by
  induction cs generalizing p with
  | nil => exact h
  | cons c cs ih =>
    rw [Text.unitsOf, ← Nat.add_assoc] at h
    have htail := ih h
    rw [Nat.add_right_comm] at htail
    refine .cons rfl (List.forall_mem_append.2 ⟨fun l hl => ?_, hle⟩) htail
    exact Nat.le_of_eq (skipped_lettersOf _ _ _ l hl).symm

/-- What is skipped in a paragraph makes up for the positions that its text does not take. -/
theorem Tiling.spaced {p q skipped : Nat} {runs : List Run} (h : Tiling (p + skipped) q runs) :
    Spaced p (letters skipped runs) := by
  generalize hindex : p + skipped = index at h
  induction h generalizing p skipped with
  | nil => exact .nil p
  | object hle h ih => exact ih (by omega)
  | text hlen h ih =>
    subst hindex
    exact Spaced.lettersOf _ (le_skipped skipped _) (ih (by rw [hlen, Text.units]; omega))

theorem Spaced.index_eq {p k : Nat} {ls : List Letter} {l : Letter} (h : Spaced p ls)
    (hk : ls[k]? = some l) :
    l.index = p + Text.unitsOf ((ls.take k).map Letter.char) + l.skipped := by
  induction h generalizing k with
  | nil => cases hk
  | cons hindex hle h ih =>
    cases k with
    | zero =>
      cases hk
      exact hindex
    | succ k =>
      rw [ih hk, List.take_succ_cons, List.map_cons, Text.unitsOf]
      omega

end Snapshot

/-- A match starts and stops short of the marker by what was skipped before its first and its last
character. -/
structure Displaced (m : MarkerMatch) (w : Sighting) : Prop where
  ordinal : m.ordinal = w.ordinal
  depth : m.depth = w.depth
  start : m.start + w.first.skipped = w.range.start
  stop : m.stop + w.last.skipped = w.range.stop
  exact : m.range = w.range ↔ w.last.skipped = 0

theorem units_of_markerAt? {key cs : List Char} {n length : Nat}
    (h : markerAt? key cs = some (n, length)) :
    0 < length ∧ length ≤ cs.length ∧ ∀ k ≤ length, Text.unitsOf (cs.take k) = k := by
  have hkey := isKey_of_markerAt? h
  obtain ⟨digits, rest, hdigits, hbound, rfl⟩ := eq_markerText_of_markerAt? h
  rw [markerAt?_markerText hkey hdigits hbound] at h
  obtain ⟨-, rfl⟩ := Prod.ext_iff.1 (Option.some.inj h)
  obtain ⟨c, cs, htext, -⟩ := exists_markerText_brackets hkey hdigits
  refine ⟨by simp [htext], by simp, fun k hk => ?_⟩
  change k ≤ (markerText key digits).length at hk
  rw [List.take_append_of_le_length hk, unitsOf_eq_length, List.length_take, Nat.min_eq_left hk]
  exact fun c hc => (mem_markerText hkey hdigits (List.mem_of_mem_take hc)).2

theorem displaced_of_markerAt? {key : List Char} {depth p n length : Nat} {l : Letter}
    {ls : List Letter} (h : Spaced p (l :: ls))
    (hm : markerAt? key ((l :: ls).map Letter.char) = some (n, length)) :
    Displaced ⟨n, p, p + length, depth⟩ ⟨n, depth, l, (l :: ls).getD (length - 1) l⟩ := by
  obtain ⟨hpos, hlength, hunits⟩ := units_of_markerAt? hm
  rw [List.length_map] at hlength
  obtain ⟨last, hlast⟩ : ∃ last, (l :: ls)[length - 1]? = some last :=
    ⟨_, List.getElem?_eq_getElem (by omega)⟩
  have hfirst := h.index_eq (k := 0) rfl
  have hindex := h.index_eq hlast
  rw [List.map_take, hunits _ (by omega)] at hindex
  have hle : l.skipped ≤ last.skipped := by
    cases h with
    | cons _ hle _ =>
      rcases List.mem_cons.1 (List.mem_of_getElem? hlast) with rfl | hmem
      · exact Nat.le_refl _
      · exact hle _ hmem
  have hD : (l :: ls).getD (length - 1) l = last := by
    rw [List.getD_eq_getElem?_getD, hlast]
    rfl
  rw [hD]
  simp only [List.take_zero, List.map_nil, Text.unitsOf] at hfirst
  refine ⟨rfl, rfl, ?_, ?_, ?_⟩
  · simp only [Sighting.range]
    omega
  · simp only [Sighting.range]
    omega
  · simp only [Sighting.range, MarkerMatch.range, Edit.Range.mk.injEq]
    omega

theorem markersIn_displaced {key : List Char} {depth p : Nat} {ls : List Letter}
    (h : Spaced p ls) :
    List.Forall₂ Displaced (markersIn key depth p (ls.map Letter.char))
      (sightingsIn key depth ls) := by
  induction h with
  | nil => exact .nil
  | @cons p l ls hindex hle h ih =>
    rw [List.map_cons, markersIn, sightingsIn]
    cases hm : markerAt? key ((l :: ls).map Letter.char) with
    | none =>
      rw [List.map_cons] at hm
      simpa only [hm] using ih
    | some r =>
      have hfound := @displaced_of_markerAt? key depth p r.1 r.2 l ls (.cons hindex hle h) hm
      rw [List.map_cons] at hm
      simpa only [hm] using List.Forall₂.cons hfound ih

/-- In a snapshot whose elements fill their paragraphs each match is the marker of the same ordinal at
the same depth, and differs from where it stands by the elements without text before it. It is exact
if and only if no such element takes a position before the end of the marker. -/
theorem markers_displaced (s : Snapshot) (h : s.Faithful) (fingerprint : String) :
    List.Forall₂ Displaced (s.markers fingerprint) (s.sightings fingerprint) := by
  have hparagraph (p : Paragraph) (hp : Tiling p.start p.stop p.runs) :
      List.Forall₂ Displaced (p.markers fingerprint.toList) (p.sightings fingerprint.toList) := by
    have hspaced := @Tiling.spaced p.start p.stop 0 p.runs hp
    rw [Paragraph.markers, Paragraph.sightings, Paragraph.text, ← map_char_letters 0]
    exact markersIn_displaced hspaced
  rw [Snapshot.markers, elementsMarkers_eq, Snapshot.sightings]
  change ∀ p ∈ elementsParagraphs 0 s.content, Tiling p.start p.stop p.runs at h
  change List.Forall₂ Displaced _ ((elementsParagraphs 0 s.content).flatMap _)
  generalize elementsParagraphs 0 s.content = ps at h
  induction ps with
  | nil => exact .nil
  | cons p ps ih =>
    obtain ⟨hp, hps⟩ := List.forall_mem_cons.1 h
    exact List.rel_append (hparagraph p hp) (ih hps)

def partedMarker : Snapshot where
  documentId := "doc-1"
  title := "T"
  content := [.mk 1 30 none (some (.mk 1 1 [.mk 2 29 [.mk 3 29 [.mk 4 29
    (some [⟨4, 5, none⟩, ⟨5, 12, some "😀[[QUI"⟩, ⟨12, 13, none⟩, ⟨13, 29, some "RE_TABLE_ab_7]]\n"⟩])
    none]]]))]

theorem markers_displaced_partedMarker :
    partedMarker.Faithful ∧ List.Forall₂ Displaced [⟨7, 6, 26, 1⟩]
      [⟨7, 1, ⟨'[', 7, 1⟩, ⟨']', 27, 2⟩⟩] := by
  have hfaithful : partedMarker.Faithful := List.forall_mem_singleton.2
    (.object (by decide) (.text (by decide) (.object (by decide) (.text (by decide) (.nil _)))))
  have hmarkers : partedMarker.markers "ab" = [⟨7, 6, 26, 1⟩] := by decide +kernel
  have hsightings : partedMarker.sightings "ab" =
      [⟨7, 1, ⟨'[', 7, 1⟩, ⟨']', 27, 2⟩⟩] := by decide +kernel
  have hdisplaced := markers_displaced partedMarker hfaithful "ab"
  rw [hmarkers, hsightings] at hdisplaced
  exact ⟨hfaithful, hdisplaced⟩

/-- A picture before a marker is all it takes: the match begins with the picture, and ends before the
last character of the marker. -/
theorem marker_behind_picture :
    ∃ s : Snapshot, s.Faithful ∧ (s.markers "ab").map MarkerMatch.range = [⟨1, 21⟩] ∧
      (s.sightings "ab").map Sighting.range = [⟨2, 22⟩] := by
  refine ⟨⟨"doc-1", "T", [.mk 1 23 (some [⟨1, 2, none⟩, ⟨2, 23, some "[[QUIRE_TABLE_ab_0]]\n"⟩])
    none]⟩, List.forall_mem_singleton.2 (.object (by decide) (.text (by decide) (.nil _))), ?_, ?_⟩
  · decide +kernel
  · decide +kernel

end Folio
