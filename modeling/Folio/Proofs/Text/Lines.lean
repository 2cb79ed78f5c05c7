import Mathlib.Data.List.DropRight
import Folio.Text.Blank

set_option autoImplicit false

namespace Folio.Text

def isSpacing (c : Char) : Bool := c == ' ' || c == '\t'

def isLineEnd (c : Char) : Bool := c == '\n' || c == '\r'

/-- A carriage return and a line feed behind it end one line. -/
def lines : List Char → List (List Char)
  | [] => []
  | '\r' :: '\n' :: cs => [] :: lines cs
  | c :: cs =>
    if isLineEnd c then [] :: lines cs
    else match lines cs with
      | [] => [[c]]
      | l :: ls => (c :: l) :: ls

def strip (line : List Char) : List Char := (line.dropWhile isSpacing).rdropWhile isSpacing

def ownLines (cs : List Char) : List (List Char) := (lines cs).map strip

/-- The column behind the spaces and tabs at the start of a line; a tab leads to the next multiple of
four. -/
def indentation (line : List Char) : Nat :=
  (line.takeWhile isSpacing).foldl (fun n c => if c == '\t' then n + 4 - n % 4 else n + 1) 0

theorem strip_append {line gap : List Char} (h : ∀ c ∈ gap, isSpacing c = true) :
    strip (line ++ gap) = strip line := by
  have hgap : gap.rdropWhile isSpacing = [] := List.rdropWhile_eq_nil_iff.2 h
  rw [strip, strip, List.dropWhile_append]
  split
  · rename_i hline
    rw [List.dropWhile_eq_nil_iff.2 h, List.isEmpty_iff.1 hline]
  · rw [List.rdropWhile, List.reverse_append, List.dropWhile_append_of_pos (by simpa using h)]
    rfl

theorem strip_eq_nil_of_spacing {line : List Char} (h : ∀ c ∈ line, isSpacing c = true) :
    strip line = [] := by
  simpa [strip] using @strip_append [] _ h

/-- More lines than there are, of spacing; the last one there is goes on with spacing. -/
inductive Prolongs : List (List Char) → List (List Char) → Prop where
  | nil {ls : List (List Char)} (h : ∀ l ∈ ls, ∀ c ∈ l, isSpacing c = true) : Prolongs [] ls
  | cons {l gap : List Char} {ls ls' : List (List Char)} (hgap : ∀ c ∈ gap, isSpacing c = true)
      (h : Prolongs ls ls') : Prolongs (l :: ls) ((l ++ gap) :: ls')

theorem prolongs_line {l : List Char} {ls ls' : List (List Char)} (h : Prolongs ls ls') :
    Prolongs (l :: ls) (l :: ls') := by
  simpa using @Prolongs.cons l [] _ _ (by simp) h

/-- One more character before the first line. -/
def prepend (c : Char) : List (List Char) → List (List Char)
  | [] => [[c]]
  | l :: ls => (c :: l) :: ls

theorem Prolongs.prepend (c : Char) {ls ls' : List (List Char)} (h : Prolongs ls ls') :
    Prolongs (prepend c ls) (prepend c ls') := by
  cases h with
  | @nil ls' hspacing =>
    cases ls' with
    | nil => exact prolongs_line (.nil hspacing)
    | cons l ls' =>
      obtain ⟨hl, hls⟩ := List.forall_mem_cons.1 hspacing
      exact .cons (l := [c]) hl (.nil hls)
  | @cons l _ _ _ hgap h => exact .cons (l := c :: l) hgap h

theorem spacing_lines {cs : List Char} (h : ∀ c ∈ cs, isSpacing c = true ∨ isLineEnd c = true) :
    ∀ l ∈ lines cs, ∀ c ∈ l, isSpacing c = true := by
  fun_induction lines cs with
  | case1 => simp
  | case2 cs ih => simpa using ih fun c hc => h c (by simp [hc])
  | case3 c cs _ hend ih => simpa using ih fun c hc => h c (by simp [hc])
  | case4 c cs _ hend hnone ih => simpa using (h c (by simp)).resolve_right hend
  | case5 c cs _ hend l ls hsome ih =>
    have hrest := ih fun c hc => h c (by simp [hc])
    rw [hsome] at hrest
    obtain ⟨hl, hls⟩ := List.forall_mem_cons.1 hrest
    have hc := (h c (by simp)).resolve_right hend
    exact List.forall_mem_cons.2 ⟨List.forall_mem_cons.2 ⟨hc, hl⟩, hls⟩

theorem lines_cons {c : Char} (hend : isLineEnd c = false) (cs : List Char) :
    lines (c :: cs) = prepend c (lines cs) := by
  rw [lines, if_neg (by simp [hend])]
  · rfl
  · rintro _ rfl
    cases hend

theorem lines_lineEnd {c : Char} (hend : isLineEnd c = true) {cs : List Char}
    (hcrlf : ∀ rest, c = '\r' → cs = '\n' :: rest → False) : lines (c :: cs) = [] :: lines cs := by
  rw [lines, if_pos hend]
  exact hcrlf

theorem prolongs_lines {tail : List Char}
    (htail : ∀ c ∈ tail, isSpacing c = true ∨ isLineEnd c = true) (cs : List Char) :
    Prolongs (lines cs) (lines (cs ++ tail)) := by
  fun_induction lines cs with
  | case1 => exact .nil (by simpa using spacing_lines htail)
  | case2 cs ih => exact prolongs_line ih
  | case3 c cs hcrlf hend ih =>
    by_cases hsplit : ∃ rest, c = '\r' ∧ cs ++ tail = '\n' :: rest
    · -- The text ends between the two characters of a line end.
      obtain ⟨rest, rfl, hrest⟩ := hsplit
      cases cs with
      | nil =>
        obtain rfl : tail = '\n' :: rest := hrest
        exact prolongs_line (.nil (spacing_lines fun c hc => htail c (List.mem_cons_of_mem _ hc)))
      | cons d cs =>
        obtain ⟨rfl, -⟩ := List.cons.inj hrest
        exact (hcrlf cs rfl rfl).elim
    · rw [List.cons_append, lines_lineEnd hend fun rest hc hrest => hsplit ⟨rest, hc, hrest⟩]
      exact prolongs_line ih
  | case4 c cs _ hend hnone ih =>
    rw [List.cons_append, lines_cons (by simpa using hend)]
    have hfirst := ih.prepend c
    rwa [hnone] at hfirst
  | case5 c cs _ hend l ls hsome ih =>
    rw [List.cons_append, lines_cons (by simpa using hend)]
    have hfirst := ih.prepend c
    rwa [hsome] at hfirst

theorem Prolongs.map_strip {ls ls' : List (List Char)} (h : Prolongs ls ls')
    (hblank : ∀ l ∈ ls', strip l ≠ []) : ls.map strip = ls'.map strip := by
  induction h with
  | @nil ls' hspacing =>
    cases ls' with
    | nil => rfl
    | cons l ls' =>
      exact absurd (strip_eq_nil_of_spacing (hspacing l List.mem_cons_self)) (hblank l List.mem_cons_self)
  | cons hgap _ ih =>
    obtain ⟨-, hls⟩ := List.forall_mem_cons.1 hblank
    rw [List.map_cons, List.map_cons, strip_append hgap, ih hls]

theorem ownLines_append {cs tail : List Char}
    (htail : ∀ c ∈ tail, isSpacing c = true ∨ isLineEnd c = true)
    (hblank : [] ∉ ownLines (cs ++ tail)) : ownLines cs = ownLines (cs ++ tail) :=
  (prolongs_lines htail cs).map_strip fun _ hl hnil => hblank (hnil ▸ List.mem_map_of_mem hl)

end Folio.Text
