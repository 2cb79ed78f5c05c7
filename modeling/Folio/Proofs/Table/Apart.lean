import Folio.Proofs.Remote.Grid
import Folio.Proofs.Table.Found
import Folio.Proofs.Table.Outline
/-!
Where markers can be found at all. In a document of text and pictures the markers of any snapshot
lie inside the document, one behind the other (`markers_apart`), whatever the pictures before them
have done to their positions: a line never has more text than positions.
-/
set_option autoImplicit false

namespace Folio

open Edit Snapshot Remote

inductive Apart : Nat → Nat → List MarkerMatch → Prop where
  | nil {p q : Nat} (h : p ≤ q) : Apart p q []
  | cons {p q : Nat} {m : MarkerMatch} {ms : List MarkerMatch} (hp : p ≤ m.start)
      (hm : m.start < m.stop) (h : Apart m.stop q ms) : Apart p q (m :: ms)

namespace Apart

variable {p q r : Nat} {ms ms' : List MarkerMatch}

theorem le (h : Apart p q ms) : p ≤ q := by
  induction h with
  | nil h => exact h
  | cons hp hm h ih => omega

theorem append (h : Apart p q ms) (h' : Apart q r ms') : Apart p r (ms ++ ms') := by
  induction h with
  | @nil p q h =>
    cases h' with
    | nil h' => exact .nil (Nat.le_trans h h')
    | cons hp hm h' => exact .cons (Nat.le_trans h hp) hm h'
  | cons hp hm h ih => exact .cons hp hm (ih h')

theorem widen {p' q' : Nat} (h : Apart p q ms) (hp : p' ≤ p) (hq : q ≤ q') : Apart p' q' ms := by
  have hall := (Apart.nil hp).append (h.append (.nil hq))
  rwa [List.append_nil] at hall

theorem within (h : Apart p q ms) :
    ∀ m ∈ ms, p ≤ m.start ∧ m.start < m.stop ∧ m.stop ≤ q := by
  induction h with
  | nil h => exact List.forall_mem_nil _
  | cons hp hm h ih =>
    refine List.forall_mem_cons.2 ⟨⟨hp, hm, h.le⟩, fun m hmem => ?_⟩
    have := ih m hmem
    omega

theorem pairwise (h : Apart p q ms) : ms.Pairwise fun a b => a.stop ≤ b.start := by
  induction h with
  | nil h => exact .nil
  | cons hp hm h ih => exact .cons (fun m hmem => (h.within m hmem).1) ih

end Apart

section

variable {key : List Char}

theorem markerAt?_of_not_brackets {c : Char} {cs : List Char} (h : c ≠ '[' ∨ cs.head? ≠ some '[') :
    markerAt? key (c :: cs) = none := by
  cases hm : markerAt? key (c :: cs) with
  | none => rfl
  | some r =>
    obtain ⟨digits, rest, -, -, hcs⟩ := eq_markerText_of_markerAt? hm
    have hfirst : markerStart.toList = '[' :: '[' :: "QUIRE_TABLE_".toList := by decide
    simp only [markerText, hfirst, List.cons_append, List.cons.injEq] at hcs
    rcases h with h | h
    · exact absurd hcs.1 h
    · rw [hcs.2] at h
      exact absurd rfl h

theorem markersIn_cons_of_none {depth p : Nat} {c : Char} {cs : List Char}
    (h : markerAt? key (c :: cs) = none) :
    markersIn key depth p (c :: cs) = markersIn key depth (p + Text.charUnits c) cs := by
  rw [markersIn]
  simp only [h]

theorem markersIn_append_of_noBracket {as : List Char} (h : '[' ∉ as) (depth p : Nat)
    (bs : List Char) :
    markersIn key depth p (as ++ bs) = markersIn key depth (p + Text.unitsOf as) bs := by
  induction as generalizing p with
  | nil => rfl
  | cons a as ih =>
    rw [List.mem_cons, not_or] at h
    rw [List.cons_append, markersIn_cons_of_none (markerAt?_of_not_brackets (.inl (Ne.symm h.1))),
      ih h.2, Text.unitsOf, Nat.add_assoc]

/-- Behind a marker the search goes on where the marker ends: there is no marker inside it. -/
theorem markersIn_markerText (hkey : IsKey key) {digits : List Char} (hdigits : IsOrdinal digits)
    (hbound : Text.valueOfDigits digits < ordinalBound) (depth p : Nat) (rest : List Char) :
    markersIn key depth p (markerText key digits ++ rest) =
      ⟨Text.valueOfDigits digits, p, p + (markerText key digits).length, depth⟩ ::
        markersIn key depth (p + (markerText key digits).length) rest := by
  have hmarker := markerAt?_markerText hkey hdigits hbound rest
  have hunits := unitsOf_eq_length fun c hc => (mem_markerText hkey hdigits hc).2
  obtain ⟨c, cs, htext, hnot⟩ := exists_markerText_brackets hkey hdigits
  rw [htext] at hmarker hunits ⊢
  have hsecond : markerAt? key ('[' :: (c :: cs ++ rest)) = none :=
    markerAt?_of_not_brackets (.inr fun h => hnot (by rw [Option.some.inj h]; simp))
  have hbracket : Text.charUnits '[' = 1 := by decide
  simp only [List.cons_append] at hmarker hsecond ⊢
  rw [markersIn]
  simp only [hmarker]
  have hinside := @markersIn_append_of_noBracket key (c :: cs) hnot depth (p + 1 + 1) rest
  have hlength : p + 1 + 1 + Text.unitsOf (c :: cs) = p + ('[' :: '[' :: c :: cs).length := by
    simp only [Text.unitsOf, hbracket] at hunits ⊢
    omega
  rw [markersIn_cons_of_none hsecond, hbracket, ← List.cons_append, hinside, hlength]

theorem markersIn_apart (depth p : Nat) (cs : List Char) :
    Apart p (p + Text.unitsOf cs) (markersIn key depth p cs) := by
  induction hn : cs.length using Nat.strongRecOn generalizing p cs with
  | _ n ih =>
    cases cs with
    | nil => exact .nil (Nat.le_refl p)
    | cons c cs =>
      rw [List.length_cons] at hn
      cases hm : markerAt? key (c :: cs) with
      | none =>
        rw [markersIn_cons_of_none hm, Text.unitsOf, ← Nat.add_assoc]
        exact (ih cs.length (by omega) _ cs rfl).widen (by omega) (Nat.le_refl _)
      | some r =>
        have hkey := isKey_of_markerAt? hm
        obtain ⟨digits, rest, hdigits, hbound, htext⟩ := eq_markerText_of_markerAt? hm
        have hunits := unitsOf_eq_length fun c hc => (mem_markerText hkey hdigits hc).2
        obtain ⟨c', cs', hcs', -⟩ := exists_markerText_brackets hkey hdigits
        have hpos : 0 < (markerText key digits).length := by
          rw [hcs']
          exact Nat.succ_pos _
        have hlen := congrArg List.length htext
        rw [List.length_cons, List.length_append] at hlen
        rw [htext, markersIn_markerText hkey hdigits hbound, Text.unitsOf_append, hunits,
          ← Nat.add_assoc]
        exact .cons (Nat.le_refl p) (Nat.lt_add_of_pos_right hpos) (ih _ (by omega) _ rest rfl)

end

namespace Remote

/-- Lines one behind the other from one position to another, with `n` spare positions in the first
one: no line has more text than positions. -/
inductive Tiled : Nat → Nat → Nat → List Snapshot.Element → Prop where
  | nil (p : Nat) : Tiled 0 p p []
  | cons {n p m q : Nat} {text : String} {es : List Snapshot.Element}
      (h : p + n + Text.units text ≤ m) (rest : Tiled 0 m q es) :
    Tiled n p q (.line p m text :: es)

section

variable {n p q : Nat} {es : List Snapshot.Element}

theorem Tiled.tight (h : Tiled n p q es) : Tiled 0 p q es := by
  cases h with
  | nil p => exact .nil p
  | cons h rest => exact .cons (by omega) rest

/-- Text that is put before a line takes up spare positions. -/
theorem Tiled.join (h : Tiled n (p + 1) q es) (text : String) (htext : Text.units text ≤ n + 1) :
    Tiled (n + 1 - Text.units text) p q (join p text es) := by
  cases h with
  | nil => exact .cons (by omega) (.nil _)
  | @cons _ _ m _ text' es h rest =>
    have hline : Remote.join p text (.line (p + 1) m text' :: es) =
        .line p m (text ++ text') :: es := by
      simp [Remote.join, Snapshot.Element.line, Snapshot.Element.paragraph, Snapshot.Element.text,
        Snapshot.Element.stop, Snapshot.Element.table, String.join]
    rw [hline]
    exact .cons (by rw [Text.units_append]; omega) rest

theorem Tiled.trails {gs : List Glyph} (k : Nat)
    (h : Tiled 0 (p + k) q (read (p + k) gs).elements) :
    Tiled k p q (read p (List.replicate k .trail ++ gs)).elements := by
  induction k generalizing p with
  | zero => exact h
  | succ k ih =>
    rw [Nat.add_comm k, ← Nat.add_assoc] at h
    have hjoin := (ih h).join "" (by simp)
    rwa [Text.units_empty] at hjoin

theorem read_tiled {gs : List Glyph} (h : Flat gs) (p : Nat) :
    Tiled 0 p (p + gs.length) (read p gs).elements := by
  induction h generalizing p with
  | nil => exact .nil p
  | @char c gs h ih =>
    obtain ⟨k, hk⟩ : ∃ k, Text.charUnits c = 1 + k := ⟨Text.charUnits c - 1, by
      have := Text.charUnits_pos c
      omega⟩
    have hglyphs : glyphsOfChar c ++ gs = .char c :: (List.replicate k .trail ++ gs) := by
      rw [glyphsOfChar, hk, Nat.add_sub_cancel_left]
      rfl
    have htail := ih (p + 1 + k)
    have hend : p + 1 + k + gs.length = p + (glyphsOfChar c ++ gs).length := by
      rw [hglyphs]
      simp only [List.length_cons, List.length_append, List.length_replicate]
      omega
    rw [hend] at htail
    rw [hglyphs, read, ← hglyphs, Reading.step]
    split
    · rename_i hc
      have hzero : k = 0 := by
        rw [hc] at hk
        have hone : Text.charUnits '\n' = 1 := by decide
        omega
      subst hzero
      exact .cons (by simp [Text.units, Text.unitsOf, Text.charUnits]) htail
    · have hjoin := (Tiled.trails k htail).join (String.singleton c) (by
        simp [Text.units, Text.unitsOf, hk]
        omega)
      exact hjoin.tight
  | @image uri size gs h ih =>
    have hjoin := (ih (p + 1)).join "" (by simp)
    rw [Nat.add_assoc, Nat.add_comm 1] at hjoin
    exact hjoin.tight

theorem Tiled.markers_apart (h : Tiled n p q es) (key : List Char) :
    Apart p q (elementsMarkers key 0 es) := by
  induction h with
  | nil p => exact .nil (Nat.le_refl p)
  | @cons n p m q text es h rest ih =>
    rw [elementsMarkers, markers_line]
    exact ((markersIn_apart 0 p text.toList).widen (Nat.le_refl p)
      (by rw [Text.units] at h; omega)).append ih

end

theorem Service.markers_apart (service : Service) (document fingerprint : String) {c : Content}
    (h : Flat (glyphs c)) :
    Apart 1 (c.length + 1) ((service.fetch document c).markers fingerprint) := by
  have htiled := read_tiled h 1
  rw [glyphs, List.length_map, Nat.add_comm] at htiled
  rw [Snapshot.markers_eq_outline, service.exact]
  exact htiled.markers_apart _

theorem Flat.isPlain {gs : List Glyph} (h : Flat gs) : ∀ g ∈ gs, g.isPlain := by
  induction h with
  | nil => exact List.forall_mem_nil _
  | char c h ih =>
    refine List.forall_mem_append.2 ⟨fun g hg => ?_, ih⟩
    simp only [glyphsOfChar, List.mem_cons, List.mem_replicate] at hg
    rcases hg with rfl | ⟨-, rfl⟩ <;> rfl
  | image uri size h ih => exact List.forall_mem_cons.2 ⟨rfl, ih⟩

theorem Service.length_tables (service : Service) (document : String) (c : Content) :
    (service.fetch document c).tables.length = (read 1 (glyphs c)).tables.length := by
  have h := congrArg List.length (Snapshot.tables_outline (service.fetch document c))
  rw [List.length_map, service.exact] at h
  exact h

theorem Flat.tables {c : Content} (h : Flat (glyphs c)) (service : Service) (document : String) :
    (service.fetch document c).tables = [] := by
  have hplain := tables_plain h.isPlain 1 []
  rw [List.append_nil] at hplain
  rw [← List.length_eq_zero_iff, service.length_tables, hplain]
  rfl

end Remote

end Folio
