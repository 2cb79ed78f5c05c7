import Mathlib.Data.List.Induction
import Folio.Proofs.Table.Apart
import Folio.Proofs.Table.Sighting
/-!
The markers found in a snapshot are all the markers there are: each match stands for one occurrence
of a marker in the text of a paragraph, and each occurrence for one match (`markers_occurrences`).
Text that looks like a marker is none and keeps none from being found. The matches are also those of
a search that takes whatever has the form of a marker, goes on behind it and looks at key and number
only then (`Searches`); such a search misses nothing, since no marker begins inside of one.
-/
set_option autoImplicit false

namespace Folio

open Snapshot

/-- A place for a marker: the number of a paragraph, what stands before the marker in its text, and
the digits of the marker. -/
structure Occurrence where
  paragraph : Nat
  before : List Char
  digits : List Char

namespace Occurrence

structure In (key : List Char) (ps : List Paragraph) (o : Occurrence) : Prop where
  text : ∃ p after, ps[o.paragraph]? = some p ∧
    p.text.toList = o.before ++ (markerText key o.digits ++ after)
  ordinal : IsOrdinal o.digits
  bound : Text.valueOfDigits o.digits < ordinalBound

def Precedes (o o' : Occurrence) : Prop :=
  o.paragraph < o'.paragraph ∨ o.paragraph = o'.paragraph ∧ o.before.length < o'.before.length

def matchIn (key : List Char) (p : Paragraph) (o : Occurrence) : MarkerMatch where
  ordinal := Text.valueOfDigits o.digits
  start := p.start + Text.unitsOf o.before
  stop := p.start + Text.unitsOf o.before + Text.unitsOf (markerText key o.digits)
  depth := p.depth

def Meant (key : List Char) (ps : List Paragraph) (m : MarkerMatch) (o : Occurrence) : Prop :=
  ∃ p, ps[o.paragraph]? = some p ∧ m = o.matchIn key p

end Occurrence

theorem append_cons_inj {α : Type} {as as' bs bs' : List α} {x x' : α} (hx : x ∉ as')
    (hx' : x' ∉ as) (h : as ++ x :: bs = as' ++ x' :: bs') : as = as' ∧ x = x' ∧ bs = bs' := by
  induction as generalizing as' with
  | nil =>
    cases as' with
    | nil => exact ⟨rfl, List.cons.inj h⟩
    | cons a' as' => exact absurd ((List.cons.inj h).1 ▸ List.mem_cons_self) hx
  | cons a as ih =>
    cases as' with
    | nil => exact absurd ((List.cons.inj h).1 ▸ List.mem_cons_self) hx'
    | cons a' as' =>
      obtain ⟨rfl, htail⟩ := List.cons.inj h
      rw [List.mem_cons, not_or] at hx hx'
      obtain ⟨rfl, hrest⟩ := ih hx.2 hx'.2 htail
      exact ⟨rfl, hrest⟩

section

variable {key key' digits digits' rest rest' : List Char}

theorem markerText_append (key digits rest : List Char) : markerText key digits ++ rest =
    markerStart.toList ++ (key ++ '_' :: (digits ++ ']' :: ']' :: rest)) := by
  simp [markerText, markerStop]

theorem IsKey.not_mem {c : Char} (h : IsKey key) (hc : Text.isHex c = false) : c ∉ key :=
  fun hmem => absurd (h.hex c hmem) (by simp [hc])

theorem IsOrdinal.not_mem {c : Char} (h : IsOrdinal digits) (hc : Text.isDigit c = false) :
    c ∉ digits :=
  fun hmem => absurd (h.digit c hmem) (by simp [hc])

/-- The key ends at the first low line, and the number at the first closing bracket. -/
theorem markerText_inj (hkey : '_' ∉ key) (hkey' : '_' ∉ key') (hdigits : ']' ∉ digits)
    (hdigits' : ']' ∉ digits')
    (h : markerText key digits ++ rest = markerText key' digits' ++ rest') :
    key = key' ∧ digits = digits' ∧ rest = rest' := by
  rw [markerText_append, markerText_append, List.append_cancel_left_eq] at h
  obtain ⟨rfl, -, hnumber⟩ := append_cons_inj hkey' hkey h
  obtain ⟨rfl, -, htail⟩ := append_cons_inj hdigits' hdigits hnumber
  exact ⟨rfl, rfl, (List.cons.inj htail).2⟩

end

namespace Occurrence

/-- There is a marker in a part of a text, which goes on behind `before`. -/
structure Behind (key : List Char) (i : Nat) (before cs : List Char) (o : Occurrence) : Prop where
  paragraph : o.paragraph = i
  text : ∃ lead after, o.before = before ++ lead ∧ cs = lead ++ (markerText key o.digits ++ after)
  ordinal : IsOrdinal o.digits
  bound : Text.valueOfDigits o.digits < ordinalBound

section

variable {key : List Char} {i : Nat} {before cs : List Char} {c : Char} {o : Occurrence}

theorem Behind.length_le (h : Behind key i before cs o) : before.length ≤ o.before.length := by
  obtain ⟨lead, after, hbefore, -⟩ := h.text
  rw [hbefore, List.length_append]
  exact Nat.le_add_right _ _

structure Here (key : List Char) (i : Nat) (before cs : List Char) (o : Occurrence) : Prop where
  paragraph : o.paragraph = i
  before : o.before = before
  text : ∃ after, cs = markerText key o.digits ++ after
  ordinal : IsOrdinal o.digits
  bound : Text.valueOfDigits o.digits < ordinalBound

/-- A text starts with one marker at most. -/
theorem here_iff (hkey : IsKey key) {digits rest : List Char} (hdigits : IsOrdinal digits)
    (hbound : Text.valueOfDigits digits < ordinalBound) :
    Here key i before (markerText key digits ++ rest) o ↔ o = ⟨i, before, digits⟩ := by
  constructor
  · obtain ⟨i', before', digits'⟩ := o
    rintro ⟨rfl, rfl, ⟨after, htext⟩, hdigits', -⟩
    obtain ⟨-, rfl, -⟩ := markerText_inj (hkey.not_mem (by decide)) (hkey.not_mem (by decide))
      (hdigits.not_mem (by decide)) (hdigits'.not_mem (by decide)) htext
    rfl
  · rintro rfl
    exact ⟨rfl, rfl, ⟨rest, rfl⟩, hdigits, hbound⟩

theorem behind_cons : Behind key i before (c :: cs) o ↔
    Here key i before (c :: cs) o ∨ Behind key i (before ++ [c]) cs o := by
  constructor
  · rintro ⟨hi, ⟨lead, after, hbefore, htext⟩, hdigits, hbound⟩
    cases lead with
    | nil => exact .inl ⟨hi, by rw [hbefore, List.append_nil], ⟨after, htext⟩, hdigits, hbound⟩
    | cons c' lead =>
      obtain ⟨rfl, hcs⟩ := List.cons.inj htext
      exact .inr ⟨hi, ⟨lead, after, by simp [hbefore], hcs⟩, hdigits, hbound⟩
  · rintro (⟨hi, hbefore, ⟨after, htext⟩, hdigits, hbound⟩ |
      ⟨hi, ⟨lead, after, hbefore, htext⟩, hdigits, hbound⟩)
    · exact ⟨hi, ⟨[], after, by rw [hbefore, List.append_nil], htext⟩, hdigits, hbound⟩
    · exact ⟨hi, ⟨c :: lead, after, by simp [hbefore], by rw [htext, List.cons_append]⟩, hdigits,
        hbound⟩

end

end Occurrence

section

open Occurrence

variable {key : List Char}

theorem markersIn_cons_of_some {c : Char} {cs : List Char} {r : Nat × Nat}
    (h : markerAt? key (c :: cs) = some r) (depth p : Nat) :
    markersIn key depth p (c :: cs) =
      ⟨r.1, p, p + r.2, depth⟩ :: markersIn key depth (p + Text.charUnits c) cs := by
  rw [markersIn]
  simp only [h]

theorem markersIn_occurrences (hkey : IsKey key) (p : Paragraph) (i : Nat) (before cs : List Char) :
    ∃ os : List Occurrence, (∀ o, o ∈ os ↔ o.Behind key i before cs) ∧ os.Pairwise Precedes ∧
      List.Forall₂ (fun m o => o.paragraph = i ∧ m = o.matchIn key p)
        (markersIn key p.depth (p.start + Text.unitsOf before) cs) os := by
  induction cs generalizing before with
  | nil =>
    refine ⟨[], fun o => ⟨fun h => absurd h List.not_mem_nil, fun h => ?_⟩, .nil, .nil⟩
    obtain ⟨lead, after, -, htext⟩ := h.text
    simp [markerText_append] at htext
  | cons c cs ih =>
    obtain ⟨os, hmem, hordered, hmeant⟩ := ih (before ++ [c])
    rw [Text.unitsOf_append, ← Nat.add_assoc] at hmeant
    cases hm : markerAt? key (c :: cs) with
    | none =>
      have hnone : ∀ o, ¬Here key i before (c :: cs) o := by
        rintro o ⟨-, -, ⟨after, htext⟩, hdigits, hbound⟩
        rw [htext, markerAt?_markerText hkey hdigits hbound] at hm
        cases hm
      refine ⟨os, fun o => ?_, hordered, ?_⟩
      · rw [hmem, behind_cons, or_iff_right (hnone o)]
      · rw [markersIn_cons_of_none hm]
        exact hmeant
    | some r =>
      obtain ⟨digits, rest, hdigits, hbound, htext⟩ := eq_markerText_of_markerAt? hm
      have hunits := unitsOf_eq_length fun c hc => (mem_markerText hkey hdigits hc).2
      have hr : r = (Text.valueOfDigits digits, (markerText key digits).length) := by
        rw [htext, markerAt?_markerText hkey hdigits hbound] at hm
        exact (Option.some.inj hm).symm
      refine ⟨⟨i, before, digits⟩ :: os, fun o => ?_, .cons (fun o ho => .inr ?_) hordered, ?_⟩
      · rw [List.mem_cons, hmem, behind_cons, htext, here_iff hkey hdigits hbound]
      · have hbehind := (hmem o).1 ho
        refine ⟨hbehind.paragraph.symm, Nat.lt_of_lt_of_le ?_ hbehind.length_le⟩
        simp
      · rw [markersIn_cons_of_some hm, hr]
        exact .cons ⟨rfl, by rw [matchIn, hunits]⟩ hmeant

theorem Occurrence.in_append_singleton {ps : List Paragraph} {p : Paragraph} {o : Occurrence} :
    o.In key (ps ++ [p]) ↔ o.In key ps ∨ o.Behind key ps.length [] p.text.toList := by
  constructor
  · rintro ⟨⟨q, after, hq, htext⟩, hdigits, hbound⟩
    rcases Nat.lt_or_ge o.paragraph ps.length with hlt | hge
    · rw [List.getElem?_append_left hlt] at hq
      exact .inl ⟨⟨q, after, hq, htext⟩, hdigits, hbound⟩
    · rw [List.getElem?_append_right hge, List.getElem?_singleton] at hq
      split at hq
      · cases hq
        exact .inr ⟨by omega, ⟨o.before, after, rfl, htext⟩, hdigits, hbound⟩
      · cases hq
  · rintro (⟨⟨q, after, hq, htext⟩, hdigits, hbound⟩ |
      ⟨hi, ⟨lead, after, hbefore, htext⟩, hdigits, hbound⟩)
    · have hlt := (List.getElem?_eq_some_iff.1 hq).1
      exact ⟨⟨q, after, by rwa [List.getElem?_append_left hlt], htext⟩, hdigits, hbound⟩
    · refine ⟨⟨p, after, by simp [hi], ?_⟩, hdigits, hbound⟩
      rw [hbefore, List.nil_append, htext]

theorem paragraphs_occurrences (hkey : IsKey key) (ps : List Paragraph) :
    ∃ os : List Occurrence, (∀ o, o ∈ os ↔ o.In key ps) ∧ os.Pairwise Precedes ∧
      List.Forall₂ (Meant key ps) (ps.flatMap (Paragraph.markers key)) os := by
  induction ps using List.reverseRecOn with
  | nil =>
    refine ⟨[], fun o => ⟨fun h => absurd h List.not_mem_nil, fun h => ?_⟩, .nil, .nil⟩
    obtain ⟨p, after, hp, -⟩ := h.text
    cases hp
  | append_singleton ps p ih =>
    obtain ⟨os, hmem, hordered, hmeant⟩ := ih
    obtain ⟨last, hmem', hordered', hmeant'⟩ :=
      markersIn_occurrences hkey p ps.length [] p.text.toList
    have hlt : ∀ o ∈ os, o.paragraph < ps.length := fun o ho => by
      obtain ⟨q, after, hq, -⟩ := ((hmem o).1 ho).text
      exact (List.getElem?_eq_some_iff.1 hq).1
    refine ⟨os ++ last, fun o => ?_, List.pairwise_append.2 ⟨hordered, hordered', ?_⟩, ?_⟩
    · rw [List.mem_append, hmem, hmem', in_append_singleton]
    · intro o ho o' ho'
      exact .inl (((hmem' o').1 ho').paragraph ▸ hlt o ho)
    · rw [List.flatMap_append, List.flatMap_singleton]
      refine List.rel_append (hmeant.imp ?_) ?_
      · rintro m o ⟨q, hq, rfl⟩
        have hi := (List.getElem?_eq_some_iff.1 hq).1
        exact ⟨q, by rwa [List.getElem?_append_left hi], rfl⟩
      · exact hmeant'.imp fun m o h => ⟨p, by simp [h.1], h.2⟩

end

/-- What stands between the brackets of a marker is not the key with a number that fits: the key is
another one or missing, the digits are others, or the number is too large. -/
structure Lookalike (key inner : List Char) : Prop where
  noOpening : '[' ∉ inner
  noClosing : ']' ∉ inner
  other (digits : List Char) (h : inner = key ++ '_' :: digits) :
    ¬(IsOrdinal digits ∧ Text.valueOfDigits digits < ordinalBound)

def lookalikeText (inner : List Char) : List Char :=
  markerStart.toList ++ (inner ++ markerStop.toList)

section

variable {key : List Char}

theorem Lookalike.markerAt? (hkey : IsKey key) {inner : List Char} (h : Lookalike key inner)
    (rest : List Char) : markerAt? key (lookalikeText inner ++ rest) = none := by
  cases hm : Folio.markerAt? key (lookalikeText inner ++ rest) with
  | none => rfl
  | some r =>
    obtain ⟨digits, rest', hdigits, hbound, htext⟩ := eq_markerText_of_markerAt? hm
    have hnot : ']' ∉ key ++ '_' :: digits := by
      have hkey' : ']' ∉ key := hkey.not_mem (by decide)
      have hdigits' : ']' ∉ digits := hdigits.not_mem (by decide)
      simp [hkey', hdigits']
    have hstop : lookalikeText inner ++ rest =
        markerStart.toList ++ (inner ++ ']' :: ']' :: rest) := by
      simp [lookalikeText, markerStop]
    rw [hstop, markerText_append, List.append_cancel_left_eq, ← List.cons_append,
      ← List.append_assoc] at htext
    obtain ⟨hinner, -, -⟩ := append_cons_inj hnot h.noClosing htext
    exact absurd ⟨hdigits, hbound⟩ (h.other digits hinner)

theorem lookalike_iff (hkey : IsKey key) {inner : List Char} : Lookalike key inner ↔
    '[' ∉ inner ∧ ']' ∉ inner ∧ Folio.markerAt? key (lookalikeText inner) = none := by
  constructor
  · intro h
    have hnone := h.markerAt? hkey []
    rw [List.append_nil] at hnone
    exact ⟨h.noOpening, h.noClosing, hnone⟩
  · rintro ⟨hopen, hclose, hnone⟩
    refine ⟨hopen, hclose, fun digits hinner h => ?_⟩
    have htext : lookalikeText inner = markerText key digits ++ [] := by
      simp [lookalikeText, markerText, hinner]
    rw [htext, markerAt?_markerText hkey h.1 h.2] at hnone
    cases hnone

theorem exists_markerText_append (hkey : IsKey key) {digits : List Char}
    (hdigits : IsOrdinal digits) {b : Char} {bs cs rest : List Char}
    (h : b :: bs ++ '[' :: '[' :: cs = markerText key digits ++ rest) :
    ∃ tail, b :: bs = markerText key digits ++ tail := by
  rcases List.append_eq_append_iff.1 h with ⟨rest', hmarker, hrest⟩ | ⟨tail, htail, -⟩
  · cases rest' with
    | nil =>
      rw [List.append_nil] at hmarker
      exact ⟨[], by rw [List.append_nil, hmarker]⟩
    | cons c' rest' =>
      obtain ⟨rfl, hsecond⟩ := List.cons.inj hrest
      obtain ⟨c, inside, hbrackets, hnot⟩ := exists_markerText_brackets hkey hdigits
      rw [hbrackets, List.cons_append, List.cons.injEq] at hmarker
      obtain ⟨-, hmarker⟩ := hmarker
      cases bs with
      | nil =>
        rw [List.nil_append, List.cons.injEq] at hmarker
        obtain ⟨-, rfl⟩ := hmarker
        exact absurd ((List.cons.inj hsecond).1 ▸ List.mem_cons_self) hnot
      | cons b' bs =>
        rw [List.cons_append, List.cons.injEq] at hmarker
        exact absurd (hmarker.2 ▸ List.mem_append_right bs List.mem_cons_self) hnot
  · exact ⟨tail, htail⟩

theorem markerAt?_append_brackets {b : Char} {bs : List Char} (cs : List Char) :
    markerAt? key (b :: bs ++ '[' :: '[' :: cs) = markerAt? key (b :: bs) := by
  cases hm : markerAt? key (b :: bs ++ '[' :: '[' :: cs) with
  | none =>
    cases hm' : markerAt? key (b :: bs) with
    | none => rfl
    | some r =>
      obtain ⟨digits, rest, hdigits, hbound, htext⟩ := eq_markerText_of_markerAt? hm'
      rw [htext, List.append_assoc,
        markerAt?_markerText (isKey_of_markerAt? hm') hdigits hbound] at hm
      cases hm
  | some r =>
    have hkey := isKey_of_markerAt? hm
    obtain ⟨digits, rest, hdigits, hbound, htext⟩ := eq_markerText_of_markerAt? hm
    obtain ⟨tail, htail⟩ := exists_markerText_append hkey hdigits htext
    rw [htext, markerAt?_markerText hkey hdigits hbound] at hm
    rw [htail, markerAt?_markerText hkey hdigits hbound, hm]

theorem markersIn_append_brackets (depth p : Nat) (before cs : List Char) :
    markersIn key depth p (before ++ '[' :: '[' :: cs) = markersIn key depth p before ++
      markersIn key depth (p + Text.unitsOf before) ('[' :: '[' :: cs) := by
  induction before generalizing p with
  | nil => rfl
  | cons b before ih =>
    have hsame := @markerAt?_append_brackets key b before cs
    rw [Text.unitsOf, ← Nat.add_assoc]
    cases hm : markerAt? key (b :: before) with
    | none =>
      rw [markersIn_cons_of_none hm, ← ih]
      exact markersIn_cons_of_none (hsame.trans hm)
    | some r =>
      rw [markersIn_cons_of_some hm, List.cons_append, List.cons_append, ← ih]
      exact markersIn_cons_of_some (hsame.trans hm) depth p

/-- Text with two brackets at its start and no other ones that is no marker is passed over. -/
theorem markersIn_brackets {c : Char} {text inside rest : List Char}
    (htext : text = '[' :: '[' :: c :: inside) (hnot : '[' ∉ c :: inside)
    (hnone : markerAt? key (text ++ rest) = none) (depth p : Nat) :
    markersIn key depth p (text ++ rest) = markersIn key depth (p + Text.unitsOf text) rest := by
  have hsecond : markerAt? key ('[' :: (c :: inside ++ rest)) = none :=
    markerAt?_of_not_brackets (.inr fun h => hnot (by rw [Option.some.inj h]; simp))
  have hinside := @markersIn_append_of_noBracket key (c :: inside) hnot depth (p + 1 + 1) rest
  have hbracket : Text.charUnits '[' = 1 := by decide
  rw [htext] at hnone ⊢
  simp only [List.cons_append] at hnone hsecond hinside ⊢
  rw [markersIn_cons_of_none hnone, markersIn_cons_of_none hsecond, hbracket, hinside]
  simp only [Text.unitsOf, hbracket, ← Nat.add_assoc]

theorem Lookalike.markersIn (hkey : IsKey key) {inner : List Char} (h : Lookalike key inner)
    (depth p : Nat) (before after : List Char) :
    markersIn key depth p (before ++ (lookalikeText inner ++ after)) =
      markersIn key depth p before ++ markersIn key depth
        (p + Text.unitsOf before + Text.unitsOf (lookalikeText inner)) after := by
  have hbrackets : lookalikeText inner =
      '[' :: '[' :: 'Q' :: ("UIRE_TABLE_".toList ++ (inner ++ markerStop.toList)) := by
    simp [lookalikeText, markerStart]
  have hlead : '[' ∉ 'Q' :: "UIRE_TABLE_".toList := by decide
  have hstop : '[' ∉ markerStop.toList := by decide
  have hnot : '[' ∉ 'Q' :: "UIRE_TABLE_".toList ++ (inner ++ markerStop.toList) := by
    simp only [List.mem_append, not_or]
    exact ⟨hlead, h.noOpening, hstop⟩
  rw [← markersIn_brackets hbrackets hnot (h.markerAt? hkey after)]
  rw [hbrackets, List.cons_append, List.cons_append]
  exact markersIn_append_brackets depth p before _

end

/-- A text in the form of a marker, with what stands before it. -/
structure Candidate where
  before : List Char
  key : List Char
  digits : List Char

/-- What a key and a number look like to a search that takes other digits, too. -/
structure Candidate.Formed (digit : Char → Bool) (key digits : List Char) : Prop where
  key : IsKey key
  ne_nil : digits ≠ []
  digit : ∀ c ∈ digits, digit c

/-- A search from left to right that takes each text in the form of a marker and goes on behind
it. -/
inductive Searches (digit : Char → Bool) : List Char → List Char → List Candidate → Prop where
  | done (before : List Char) : Searches digit before [] []
  | skip {before cs : List Char} {c : Char} {found : List Candidate}
      (hnone : ∀ key digits rest, c :: cs = markerText key digits ++ rest →
        ¬Candidate.Formed digit key digits)
      (h : Searches digit (before ++ [c]) cs found) : Searches digit before (c :: cs) found
  | take {before key digits cs : List Char} {found : List Candidate}
      (hformed : Candidate.Formed digit key digits)
      (h : Searches digit (before ++ markerText key digits) cs found) :
      Searches digit before (markerText key digits ++ cs) (⟨before, key, digits⟩ :: found)

def Candidate.match? (key : List Char) (p : Paragraph) (c : Candidate) : Option MarkerMatch :=
  if c.key = key ∧ c.digits.all Text.isDigit ∧ Text.valueOfDigits c.digits < ordinalBound then
    some ⟨Text.valueOfDigits c.digits, p.start + Text.unitsOf c.before,
      p.start + Text.unitsOf c.before + Text.unitsOf (markerText c.key c.digits), p.depth⟩
  else none

section

variable {key : List Char} {digit : Char → Bool}

theorem exists_searches (before cs : List Char) : ∃ found, Searches digit before cs found := by
  induction hn : cs.length using Nat.strongRecOn generalizing before cs with
  | _ n ih =>
    by_cases h : ∃ key digits rest, cs = markerText key digits ++ rest ∧
        Candidate.Formed digit key digits
    · obtain ⟨key, digits, rest, rfl, hformed⟩ := h
      have hshort : rest.length < n := by
        rw [← hn]
        simp [markerText, markerStop]
        omega
      obtain ⟨found, hfound⟩ := ih _ hshort (before ++ markerText key digits) rest rfl
      exact ⟨_, .take hformed hfound⟩
    · cases cs with
      | nil => exact ⟨[], .done before⟩
      | cons c cs =>
        obtain ⟨found, hfound⟩ := ih cs.length (by simp [← hn]) (before ++ [c]) cs rfl
        exact ⟨found, .skip (fun key digits rest htext hformed =>
          h ⟨key, digits, rest, htext, hformed⟩) hfound⟩

theorem Candidate.Formed.lookalike (hkey : IsKey key) (hopen : digit '[' = false)
    (hclose : digit ']' = false) {key' digits : List Char} (h : Formed digit key' digits)
    (hno : ¬(key' = key ∧ digits.all Text.isDigit ∧ Text.valueOfDigits digits < ordinalBound)) :
    Lookalike key (key' ++ '_' :: digits) := by
  have hopen' : '[' ∉ digits := fun hc => absurd (h.digit _ hc) (by simp [hopen])
  have hclose' : ']' ∉ digits := fun hc => absurd (h.digit _ hc) (by simp [hclose])
  have hopenKey : '[' ∉ key' := h.key.not_mem (by decide)
  have hcloseKey : ']' ∉ key' := h.key.not_mem (by decide)
  refine ⟨by simp [hopenKey, hopen'], by simp [hcloseKey, hclose'], fun digits' hsame hmarker => ?_⟩
  obtain ⟨rfl, -, rfl⟩ := append_cons_inj (hkey.not_mem (by decide)) (h.key.not_mem (by decide))
    hsame
  exact hno ⟨rfl, List.all_eq_true.2 hmarker.1.digit, hmarker.2⟩

/-- Such a search finds every marker: nothing that it goes past has a marker in it. -/
theorem Searches.markersIn (hkey : IsKey key) (hascii : ∀ c, Text.isDigit c → digit c)
    (hopen : digit '[' = false) (hclose : digit ']' = false) (p : Paragraph)
    {before cs : List Char} {found : List Candidate} (h : Searches digit before cs found) :
    markersIn key p.depth (p.start + Text.unitsOf before) cs =
      found.filterMap (·.match? key p) := by
  induction h with
  | done before => rfl
  | @skip before cs c found hnone h ih =>
    have hm : markerAt? key (c :: cs) = none := by
      cases hm : markerAt? key (c :: cs) with
      | none => rfl
      | some r =>
        obtain ⟨digits, rest, hdigits, -, htext⟩ := eq_markerText_of_markerAt? hm
        exact absurd ⟨hkey, hdigits.ne_nil, fun c hc => hascii c (hdigits.digit c hc)⟩
          (hnone key digits rest htext)
    rw [Text.unitsOf_append, ← Nat.add_assoc] at ih
    rw [markersIn_cons_of_none hm]
    exact ih
  | @take before key' digits cs found hformed h ih =>
    rw [Text.unitsOf_append, ← Nat.add_assoc] at ih
    by_cases hmatch : key' = key ∧ digits.all Text.isDigit ∧
        Text.valueOfDigits digits < ordinalBound
    · have hsome : (Candidate.mk before key' digits).match? key p = some _ := if_pos hmatch
      obtain ⟨rfl, hall, hbound⟩ := hmatch
      have hdigits : IsOrdinal digits := ⟨hformed.ne_nil, List.all_eq_true.1 hall⟩
      have hunits := unitsOf_eq_length fun c hc => (mem_markerText hkey hdigits hc).2
      rw [List.filterMap_cons_some hsome, ← ih, hunits]
      exact markersIn_markerText hkey hdigits hbound p.depth _ cs
    · have hlook := hformed.lookalike hkey hopen hclose hmatch
      have htext : markerText key' digits = lookalikeText (key' ++ '_' :: digits) := by
        simp [markerText, lookalikeText]
      have hpass := hlook.markersIn hkey p.depth (p.start + Text.unitsOf before) [] cs
      have hnone : (Candidate.mk before key' digits).match? key p = none := if_neg hmatch
      rw [List.filterMap_cons_none hnone, ← ih, htext]
      exact hpass

end

/-- The markers that are found in a snapshot are the occurrences of markers in the texts of its
paragraphs, in their order and each once. They are what a search for anything in the form of a
marker finds, whatever else than ASCII digits it takes for a digit. And text that looks like a
marker is none, and takes nothing away from the text before it and behind it. -/
theorem markers_occurrences (s : Snapshot) {fingerprint : String}
    (hkey : IsKey fingerprint.toList) :
    (∃ os : List Occurrence, (∀ o, o ∈ os ↔ o.In fingerprint.toList s.paragraphs) ∧
      os.Pairwise Occurrence.Precedes ∧
      List.Forall₂ (Occurrence.Meant fingerprint.toList s.paragraphs) (s.markers fingerprint) os) ∧
    (∀ digit : Char → Bool, (∀ c, Text.isDigit c → digit c) → digit '[' = false →
      digit ']' = false →
      (∃ found : Paragraph → List Candidate, ∀ p, Searches digit [] p.text.toList (found p)) ∧
      ∀ found : Paragraph → List Candidate,
        (∀ p ∈ s.paragraphs, Searches digit [] p.text.toList (found p)) → s.markers fingerprint =
          s.paragraphs.flatMap fun p => (found p).filterMap (·.match? fingerprint.toList p)) ∧
    ∀ inner, Lookalike fingerprint.toList inner → ∀ depth p before after,
      markersIn fingerprint.toList depth p (before ++ (lookalikeText inner ++ after)) =
        markersIn fingerprint.toList depth p before ++ markersIn fingerprint.toList depth
          (p + Text.unitsOf before + Text.unitsOf (lookalikeText inner)) after := by
  have hmarkers : s.markers fingerprint =
      s.paragraphs.flatMap (Paragraph.markers fingerprint.toList) :=
    elementsMarkers_eq _ 0 s.content
  refine ⟨?_, fun digit hascii hopen hclose => ?_, fun inner h => h.markersIn hkey⟩
  · rw [hmarkers]
    exact paragraphs_occurrences hkey s.paragraphs
  · choose found hfound using fun p : Paragraph => @exists_searches digit [] p.text.toList
    refine ⟨⟨found, hfound⟩, fun found hfound => ?_⟩
    rw [hmarkers]
    exact List.flatMap_congr fun p hp => (hfound p hp).markersIn hkey hascii hopen hclose p

def tangledMarkers : Snapshot where
  documentId := "doc-1"
  title := "T"
  content := [
    .mk 1 44 (some [⟨1, 6, some "[[[QU"⟩,
      ⟨6, 44, some "IRE_TABLE_ab_0]][[QUIRE_TABLE_ab_007]]\n"⟩]) none,
    .mk 44 160 none (some (.mk 44 160 [.mk 45 159 [.mk 46 159 [
      .mk 47 125 (some [⟨47, 125, some
        "[[QUIRE_TABLE_cd_1]][[QUIRE_TABLE__1]][[QUIRE_TABLE_ab_३]][[QUIRE_TABLE_ab_2]]\n"⟩]) none,
      .mk 125 158 none (some (.mk 125 158 [.mk 126 157 [.mk 127 157 [
        .mk 128 157 (some [⟨128, 157, some "[[QUIRE_TABLE_ab_3]][[QUIRE_\n"⟩]) none]]]))]]]))]

theorem markers_occurrences_tangledMarkers :
    IsKey "ab".toList ∧
    (∃ os : List Occurrence, (∀ o, o ∈ os ↔ o.In "ab".toList tangledMarkers.paragraphs) ∧
      os.Pairwise Occurrence.Precedes ∧
      List.Forall₂ (Occurrence.Meant "ab".toList tangledMarkers.paragraphs)
        [⟨0, 2, 22, 0⟩, ⟨7, 22, 44, 0⟩, ⟨2, 105, 125, 1⟩, ⟨3, 128, 148, 2⟩] os) ∧
    ∀ inner ∈ ["cd_1", "_1", "ab_३", "ab_18446744073709551616"],
      Lookalike "ab".toList inner.toList ∧
      markersIn "ab".toList 0 1 ("[[QUIRE_TABLE_ab_5]][".toList ++
          (lookalikeText inner.toList ++ "[[QUIRE_TABLE_ab_6]]".toList)) =
        [⟨5, 1, 21, 0⟩, ⟨6, 22 + (lookalikeText inner.toList).length,
          42 + (lookalikeText inner.toList).length, 0⟩] := by
  have hhex : "ab".toList.all Text.isHex = true := by decide
  have hkey : IsKey "ab".toList := ⟨by decide, List.all_eq_true.1 hhex⟩
  obtain ⟨hoccurrences, -, hlook⟩ := markers_occurrences tangledMarkers hkey
  have hmarkers : tangledMarkers.markers "ab" =
      [⟨0, 2, 22, 0⟩, ⟨7, 22, 44, 0⟩, ⟨2, 105, 125, 1⟩, ⟨3, 128, 148, 2⟩] := by decide +kernel
  rw [hmarkers] at hoccurrences
  refine ⟨hkey, hoccurrences, fun inner hinner => ?_⟩
  have hlookalike : Lookalike "ab".toList inner.toList := by
    rw [lookalike_iff hkey]
    revert inner
    decide +kernel
  refine ⟨hlookalike, ?_⟩
  rw [hlook _ hlookalike]
  clear hlookalike
  revert inner
  decide +kernel

end Folio
