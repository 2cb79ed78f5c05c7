import Folio.Toml.Read
import Folio.Toml.Write

set_option autoImplicit false

namespace Folio.Toml

theorem takeWhile_boundary {p : Char → Bool} {body rest : List Char} (hbody : ∀ c ∈ body, p c = true)
    (hrest : ∀ c ∈ rest.head?, p c = false) :
    (body ++ rest).takeWhile p = body ∧ (body ++ rest).dropWhile p = rest := by
  rw [List.takeWhile_append_of_pos hbody, List.dropWhile_append_of_pos hbody]
  cases rest with
  | nil => exact ⟨List.append_nil body, rfl⟩
  | cons c rest =>
    have hstop : ¬p c = true := by simp [hrest c rfl]
    rw [List.takeWhile_cons_of_neg hstop, List.dropWhile_cons_of_neg hstop]
    exact ⟨List.append_nil body, rfl⟩

theorem isPrintable_of_needsCode {c : Char} (h : needsCode c = false) (hfeed : c ≠ '\n') :
    isPrintable c = true := by
  simp only [needsCode, Bool.or_eq_false_iff, Bool.and_eq_false_iff, decide_eq_false_iff_not,
    bne_eq_false_iff_eq, beq_eq_false_iff_ne] at h
  simp only [isPrintable, Bool.or_eq_true, beq_iff_eq, Bool.and_eq_true, decide_eq_true_eq, bne_iff_ne]
  rcases h with ⟨(h | h) | h, hdelete⟩
  · exact .inr ⟨by omega, hdelete⟩
  · exact .inl h
  · exact absurd h hfeed

theorem lineEnd?_of_isPrintable {c : Char} (h : isPrintable c = true) (rest : List Char) :
    lineEnd? (c :: rest) = none := by
  rw [lineEnd?.eq_def]
  split
  · rename_i heq
    rw [(List.cons.inj heq).1] at h
    exact absurd h (by decide)
  · rename_i heq
    rw [(List.cons.inj heq).1] at h
    exact absurd h (by decide)
  · rfl

def codeDigits (n : Nat) : List Char := '0' :: '0' :: (Text.hexOfByte (UInt8.ofNat n)).map Char.toUpper

theorem codeDigits_spec : ∀ n < 128, (codeDigits n).length = 4 ∧ (codeDigits n).all (isBaseDigit 16) = true ∧
    (codeDigits n).foldl (fun n c => 16 * n + (Text.nibble? c).getD 0) 0 = n := by
  decide

theorem codePoint?_codeDigits {n : Nat} (h : n < 128) (rest : List Char) :
    codePoint? 4 (codeDigits n ++ rest) = some (Char.ofNat n, rest) := by
  obtain ⟨hlength, hall, hvalue⟩ := codeDigits_spec n h
  have htake : (codeDigits n ++ rest).take 4 = codeDigits n := by rw [← hlength, List.take_left]
  have hdrop : (codeDigits n ++ rest).drop 4 = rest := by rw [← hlength, List.drop_left]
  rw [codePoint?]
  simp only [htake, hdrop, hlength, hall, hvalue]
  rw [if_pos (by rfl), if_pos (by simp; omega)]

/-- Characters that are written with an escape: the backslash, the tab, the line feed and control
characters. -/
def isEscaped (c : Char) : Bool := c == '\\' || c == '\t' || c == '\n' || needsCode c

theorem codeEscape_spec {c : Char} (h : isEscaped c = true) : ∃ d more, codeEscape c = '\\' :: d :: more ∧
    isPrintable d = true ∧ isGap d = false ∧ ∀ rest, escape? (d :: (more ++ rest)) = some (c, rest) := by
  rw [codeEscape.eq_def]
  split
  case h_7 hback htab hfeed hform hreturn hslash =>
    have hneeds : needsCode c = true := by
      simp only [isEscaped, Bool.or_eq_true, beq_iff_eq] at h
      rcases h with ((rfl | rfl) | rfl) | h
      · exact absurd rfl hslash
      · exact absurd rfl htab
      · exact absurd rfl hfeed
      · exact h
    have hlt : c.toNat < 128 := by
      simp only [needsCode, Bool.or_eq_true, Bool.and_eq_true, decide_eq_true_eq, beq_iff_eq] at hneeds
      omega
    refine ⟨'u', codeDigits c.toNat, rfl, by decide, by decide, fun rest => ?_⟩
    rw [escape?, codePoint?_codeDigits hlt, Char.ofNat_toNat]
  all_goals exact ⟨_, [], rfl, by decide, by decide, fun rest => rfl⟩

def shortPiece (c : Char) : List Char :=
  if c == '"' then ['\\', '"'] else if isEscaped c then codeEscape c else [c]

theorem escaped_short (s : List Char) : escaped false 0 0 s = s.flatMap shortPiece := by
  induction s with
  | nil => rfl
  | cons c s ih =>
    rw [escaped, List.flatMap_cons, shortPiece]
    split
    · rw [if_neg (Nat.not_lt_zero 0), ih]
      rfl
    · rw [if_neg (by simp), ih, ← isEscaped]
      split <;> rfl

theorem basicString_shortPiece (c : Char) (fuel : Nat) (rest : List Char) :
    basicString (fuel + 1) (shortPiece c ++ rest) =
      (basicString fuel rest).map fun r => (c :: r.1, r.2) := by
  rw [shortPiece]
  split
  · rename_i hquote
    rw [beq_iff_eq] at hquote
    subst hquote
    rfl
  · rename_i hquote
    split
    · rename_i hescaped
      obtain ⟨d, more, hcode, -, -, hescape⟩ := codeEscape_spec hescaped
      rw [hcode, List.cons_append, List.cons_append, basicString]
      simp only [hescape]
    · rename_i hplain
      simp only [isEscaped, Bool.not_eq_true, Bool.or_eq_false_iff, beq_eq_false_iff_ne] at hplain
      have hprint := isPrintable_of_needsCode hplain.2 hplain.1.2
      rw [basicString.eq_def]
      simp only [List.singleton_append]
      split
      · rename_i heq
        cases heq
        exact absurd rfl hquote
      · rename_i heq
        cases heq
        exact absurd rfl hplain.1.1.1
      · rename_i heq
        cases heq
        rw [if_pos hprint]
      · rename_i heq
        cases heq

theorem shortPiece_ne_nil (c : Char) : shortPiece c ≠ [] := by
  rw [shortPiece]
  split
  · exact List.cons_ne_nil _ _
  · split
    · rename_i hescaped
      obtain ⟨d, more, hcode, -⟩ := codeEscape_spec hescaped
      rw [hcode]
      exact List.cons_ne_nil _ _
    · exact List.cons_ne_nil _ _

theorem basicString_flatMap (s rest : List Char) (fuel : Nat) (h : s.length < fuel) :
    basicString fuel (s.flatMap shortPiece ++ '"' :: rest) = some (s, rest) := by
  induction s generalizing fuel with
  | nil =>
    cases fuel with
    | zero => cases h
    | succ fuel => rfl
  | cons c s ih =>
    cases fuel with
    | zero => cases h
    | succ fuel =>
      rw [List.flatMap_cons, List.append_assoc, basicString_shortPiece,
        ih fuel (Nat.lt_of_succ_lt_succ h)]
      rfl

theorem length_le_flatMap_shortPiece (s : List Char) : s.length ≤ (s.flatMap shortPiece).length := by
  induction s with
  | nil => exact Nat.le_refl 0
  | cons c s ih =>
    have hc := List.length_pos_iff.2 (shortPiece_ne_nil c)
    simp only [List.flatMap_cons, List.length_append, List.length_cons]
    omega

theorem literalString_append (s rest : List Char)
    (h : ∀ c ∈ s, c ≠ '\'' ∧ isPrintable c = true) :
    literalString (s ++ '\'' :: rest) = some (s, rest) := by
  induction s with
  | nil => rfl
  | cons c s ih =>
    obtain ⟨hquote, hprint⟩ := h c List.mem_cons_self
    have hs := ih fun d hd => h d (List.mem_cons_of_mem c hd)
    rw [List.cons_append, literalString.eq_def]
    split
    · rename_i heq
      exact absurd (List.cons.inj heq).1 hquote
    · rename_i heq
      cases heq
      rw [if_pos hprint, hs]
      rfl
    · rename_i heq
      cases heq

/-- A text that is read as one character of a long string, and does not begin with its quote. -/
structure Piece (quote : Char) (text : List Char) (c : Char) : Prop where
  head : ∃ d more, text = d :: more ∧ d ≠ quote
  line : c ≠ '\n' → ∀ rest, lineEnd? (text ++ rest) = none
  read : ∀ fuel rest, longString quote (fuel + 1) (text ++ rest) =
    (longString quote fuel rest).map fun r => (c :: r.1, r.2)

/-- The text of a long string and what it means, behind `n` quotes: at most two quotes stand
together, as three of them would end the string. -/
inductive Spells (quote : Char) : Nat → List Char → List Char → Prop
  | nil {n : Nat} : Spells quote n [] []
  | quote {n : Nat} {text s : List Char} : n < 2 → Spells quote (n + 1) text s →
    Spells quote n (quote :: text) (quote :: s)
  | piece {n : Nat} {p text s : List Char} {c : Char} : Piece quote p c → Spells quote 0 text s →
    Spells quote n (p ++ text) (c :: s)

section

variable {quote : Char} {n : Nat} {text s rest : List Char}

theorem closing?_of_ne {d : Char} (h : d ≠ quote) (rest : List Char) :
    closing? quote (d :: rest) = none := by
  have hrun : (d :: rest).takeWhile (· == quote) = [] := List.takeWhile_cons_of_neg (by simpa using h)
  rw [closing?, hrun]
  rfl

/-- The quotes at the end of a string, and the three behind them. -/
theorem closing?_replicate (hrest : rest.head? ≠ some quote) {k : Nat} (hk : k ≤ 2) :
    closing? quote (List.replicate k quote ++ quote :: quote :: quote :: rest) =
      some (List.replicate k quote, rest) := by
  have hall : List.replicate k quote ++ quote :: quote :: quote :: rest =
      List.replicate (k + 3) quote ++ rest := by
    rw [← List.replicate_append_replicate, List.append_assoc]
    rfl
  have hrun : (List.replicate (k + 3) quote ++ rest).takeWhile (· == quote) =
      List.replicate (k + 3) quote := by
    refine (takeWhile_boundary (by simp) fun d hd => beq_false_of_ne ?_).1
    rintro rfl
    exact hrest hd
  have hextra : min (k + 3 - 3) 2 = k := by omega
  rw [hall, closing?, hrun, List.length_replicate, if_neg (by omega)]
  simp only [hextra]
  rw [Nat.add_comm 3 k, List.drop_left' (List.length_replicate)]

/-- Quotes that do not reach the end of the string are too few to close it. -/
theorem Spells.closing? (h : Spells quote n text s) (hn : n ≤ 2) (tail : List Char) :
    (∃ k, k + n ≤ 2 ∧ text = List.replicate k quote ∧ s = text) ∨
      ((text ++ tail).takeWhile (· == quote)).length + n ≤ 2 := by
  induction h with
  | nil => exact .inl ⟨0, by omega, rfl, rfl⟩
  | quote hlt _ ih =>
    rcases ih (by omega) with ⟨k, hk, htext, hs⟩ | hrun
    · exact .inl ⟨k + 1, by omega, by rw [htext]; rfl, by rw [hs]⟩
    · refine .inr ?_
      rw [List.cons_append, List.takeWhile_cons_of_pos (by simp), List.length_cons]
      omega
  | piece hp _ _ =>
    obtain ⟨d, more, rfl, hd⟩ := hp.head
    refine .inr ?_
    rw [List.cons_append, List.cons_append, List.takeWhile_cons_of_neg (by simpa using hd)]
    exact Nat.le_trans (Nat.le_of_eq (Nat.zero_add _)) hn

theorem longString_printable {c : Char} (hclose : Toml.closing? quote (c :: rest) = none)
    (hprint : isPrintable c = true) (hslash : c ≠ '\\' ∨ quote = '\'') (fuel : Nat) :
    longString quote (fuel + 1) (c :: rest) =
      (longString quote fuel rest).map fun r => (c :: r.1, r.2) := by
  rw [longString.eq_def]
  simp only [hclose, lineEnd?_of_isPrintable hprint]
  rw [if_neg, if_pos hprint]
  rcases hslash with h | h <;> simp [h]

theorem Spells.read {fuel : Nat} (h : Spells quote n text s) (hn : n ≤ 2) (hprint : isPrintable quote = true)
    (hslash : quote ≠ '\\') (hrest : rest.head? ≠ some quote) (hfuel : s.length < fuel) :
    longString quote fuel (text ++ quote :: quote :: quote :: rest) = some (s, rest) := by
  induction h generalizing fuel with
  | nil =>
    cases fuel with
    | zero => cases hfuel
    | succ fuel =>
      have hclose := closing?_replicate hrest (Nat.zero_le 2)
      rw [List.replicate_zero, List.nil_append] at hclose
      rw [List.nil_append, longString, hclose]
  | @quote n text s hlt htail ih =>
    cases fuel with
    | zero => cases hfuel
    | succ fuel =>
      have hread := ih (by omega) (Nat.lt_of_succ_lt_succ hfuel)
      rcases (htail.quote hlt).closing? hn (quote :: quote :: quote :: rest) with
        ⟨k, hk, htext, hs⟩ | hrun
      · rw [longString.eq_def, htext]
        simp only [closing?_replicate hrest (show k ≤ 2 by omega), hs, htext]
      · rw [List.cons_append] at hrun ⊢
        rw [longString_printable ?_ hprint (.inl hslash), hread]
        · rfl
        · rw [Toml.closing?, if_pos (by omega)]
  | piece hp _ ih =>
    cases fuel with
    | zero => cases hfuel
    | succ fuel =>
      rw [List.append_assoc, hp.read, ih (by omega) (Nat.lt_of_succ_lt_succ hfuel)]
      rfl

theorem Piece.plain {c : Char} (hquote : c ≠ quote) (hprint : isPrintable c = true)
    (hslash : c ≠ '\\' ∨ quote = '\'') : Piece quote [c] c where
  head := ⟨c, [], rfl, hquote⟩
  line _ rest := lineEnd?_of_isPrintable hprint rest
  read fuel rest := longString_printable (closing?_of_ne hquote rest) hprint hslash fuel

theorem Piece.feed (hquote : '\n' ≠ quote) : Piece quote ['\n'] '\n' where
  head := ⟨'\n', [], rfl, hquote⟩
  line h := absurd rfl h
  read fuel rest := by
    rw [List.singleton_append, longString.eq_def]
    simp only [closing?_of_ne hquote, lineEnd?]

end

theorem Piece.escape {d c : Char} {more : List Char} (hprint : isPrintable d = true)
    (hgap : isGap d = false) (h : ∀ rest, escape? (d :: (more ++ rest)) = some (c, rest)) :
    Piece '"' ('\\' :: d :: more) c where
  head := ⟨'\\', d :: more, rfl, by decide⟩
  line _ rest := lineEnd?_of_isPrintable (by decide) (d :: (more ++ rest))
  read fuel rest := by
    have hskip : skipGap (d :: (more ++ rest)) = d :: (more ++ rest) :=
      List.dropWhile_cons_of_neg (by simp [hgap])
    have hline : continuation? (d :: (more ++ rest)) = none := by
      rw [continuation?, hskip, lineEnd?_of_isPrintable hprint]
    have hclose : Toml.closing? '"' ('\\' :: d :: (more ++ rest)) = none :=
      closing?_of_ne (by decide) _
    have hend : lineEnd? ('\\' :: d :: (more ++ rest)) = none := lineEnd?_of_isPrintable (by decide) _
    rw [List.cons_append, List.cons_append, longString.eq_def]
    simp only [hclose, hend, hline, h]
    rfl

theorem spells_escaped (s : List Char) (n : Nat) : Spells '"' n (escaped true 2 n s) s := by
  induction s generalizing n with
  | nil => exact .nil
  | cons c s ih =>
    rw [escaped]
    split
    · rename_i hquote
      rw [beq_iff_eq] at hquote
      subst hquote
      split
      · rename_i hlt
        exact .quote hlt (ih _)
      · have hpiece : Piece '"' ['\\', '"'] '"' := .escape (by decide) (by decide) fun _ => rfl
        exact Spells.piece hpiece (ih 0)
    · rename_i hquote
      split
      · rename_i hfeed
        simp only [Bool.and_true, beq_iff_eq] at hfeed
        subst hfeed
        exact Spells.piece (.feed (by decide)) (ih 0)
      · split
        · rename_i hescaped
          obtain ⟨d, more, hcode, hprint, hgap, hescape⟩ := codeEscape_spec (c := c) hescaped
          rw [hcode]
          exact .piece (.escape hprint hgap hescape) (ih 0)
        · rename_i hplain
          simp only [Bool.not_eq_true, Bool.or_eq_false_iff, beq_eq_false_iff_ne] at hplain
          have hprint := isPrintable_of_needsCode hplain.2 hplain.1.2
          exact .piece (.plain (by simpa using hquote) hprint (.inl hplain.1.1.1)) (ih 0)

/-- One step of the search for the longest run of a character: the longest so far, and the present. -/
def runStep (x : Char) (state : Nat × Nat) (c : Char) : Nat × Nat :=
  if c == x then (max state.1 (state.2 + 1), state.2 + 1) else (state.1, 0)

theorem longestRun_eq (x : Char) (cs : List Char) : longestRun x cs = (cs.foldl (runStep x) (0, 0)).1 :=
  rfl

theorem le_foldl_runStep (x : Char) (cs : List Char) (state : Nat × Nat) :
    state.1 ≤ (cs.foldl (runStep x) state).1 := by
  induction cs generalizing state with
  | nil => exact Nat.le_refl _
  | cons c cs ih =>
    refine Nat.le_trans ?_ (ih (runStep x state c))
    rw [runStep]
    split
    · exact Nat.le_max_left _ _
    · exact Nat.le_refl _

theorem spells_literal {s : List Char} (state : Nat × Nat) (hcode : s.any needsCode = false)
    (hrun : (s.foldl (runStep '\'') state).1 ≤ 2) : Spells '\'' state.2 s s := by
  induction s generalizing state with
  | nil => exact .nil
  | cons c s ih =>
    rw [List.any_cons, Bool.or_eq_false_iff] at hcode
    rw [List.foldl_cons] at hrun
    have hle := Nat.le_trans (le_foldl_runStep '\'' s (runStep '\'' state c)) hrun
    have hs := ih _ hcode.2 hrun
    by_cases hquote : c = '\''
    · subst hquote
      have hstep : runStep '\'' state '\'' = (max state.1 (state.2 + 1), state.2 + 1) := rfl
      rw [hstep] at hle hs
      exact .quote (by omega) hs
    · have hstep : runStep '\'' state c = (state.1, 0) := if_neg (by simpa using hquote)
      rw [hstep] at hs
      by_cases hfeed : c = '\n'
      · subst hfeed
        exact Spells.piece (.feed (by decide)) hs
      · exact Spells.piece (.plain hquote (isPrintable_of_needsCode hcode.1 hfeed) (.inr rfl)) hs

section

variable {rest : List Char}

theorem string?_short (cs : List Char) (hrest : rest.head? ≠ some '"') :
    string? (short cs ++ rest) = some (String.ofList cs, rest) := by
  have hle := length_le_flatMap_shortPiece cs
  have hread := basicString_flatMap cs rest ((cs.flatMap shortPiece ++ '"' :: rest).length + 1)
    (by rw [List.length_append]; omega)
  have hopen : ∀ more, cs.flatMap shortPiece ++ '"' :: rest ≠ '"' :: '"' :: more := by
    intro more heq
    cases cs with
    | nil =>
      rw [List.flatMap_nil, List.nil_append] at heq
      rw [(List.cons.inj heq).2] at hrest
      exact hrest rfl
    | cons c cs =>
      obtain ⟨d, p, hp, hd⟩ : ∃ d p, shortPiece c = d :: p ∧ d ≠ '"' := by
        rw [shortPiece]
        split
        · exact ⟨_, _, rfl, by decide⟩
        · rename_i hquote
          split
          · rename_i hescaped
            obtain ⟨d, more, hcode, -⟩ := codeEscape_spec hescaped
            exact ⟨_, _, hcode, by decide⟩
          · exact ⟨_, _, rfl, by simpa using hquote⟩
      rw [List.flatMap_cons, hp] at heq
      exact hd (List.cons.inj heq).1
  rw [short, escaped_short, List.cons_append, List.append_assoc, List.singleton_append, string?]
  · rw [hread]
    rfl
  · exact fun more heq => hopen _ heq

theorem string?_literal {cs : List Char} (h : isLiteral cs = true) (hrest : rest.head? ≠ some '\'') :
    string? ('\'' :: (cs ++ ['\'']) ++ rest) = some (String.ofList cs, rest) := by
  have hchars : ∀ c ∈ cs, c ≠ '\'' ∧ isPrintable c = true := by
    intro c hc
    simp only [isLiteral, Bool.not_eq_true', List.any_eq_false] at h
    have hplain := h c hc
    simp only [Bool.not_eq_true, Bool.or_eq_false_iff, beq_eq_false_iff_ne] at hplain
    exact ⟨hplain.1.2, isPrintable_of_needsCode hplain.1.1 hplain.2⟩
  rw [List.cons_append, List.append_assoc, List.singleton_append, string?]
  · rw [literalString_append cs rest hchars]
    rfl
  · intro more heq
    cases cs with
    | nil =>
      rw [(List.cons.inj heq).2] at hrest
      exact hrest rfl
    | cons c cs => exact (hchars c List.mem_cons_self).1 (List.cons.inj heq).1

/-- The first line end of a long string does not belong to it. -/
def firstLine (cs : List Char) : List Char := if cs.contains '\n' then ['\n'] else []

theorem Spells.line {quote : Char} {n : Nat} {text s : List Char} (h : Spells quote n text s)
    (hprint : isPrintable quote = true) (hfeed : '\n' ∉ s) (rest : List Char) :
    lineEnd? (text ++ quote :: rest) = none := by
  cases h with
  | nil => exact lineEnd?_of_isPrintable hprint rest
  | quote => exact lineEnd?_of_isPrintable hprint _
  | piece hp =>
    rw [List.append_assoc]
    exact hp.line (fun hc => hfeed (hc ▸ List.mem_cons_self)) _

theorem dropLineEnd_firstLine {quote : Char} {text s : List Char} (h : Spells quote 0 text s)
    (hprint : isPrintable quote = true) (rest : List Char) :
    dropLineEnd (firstLine s ++ (text ++ quote :: rest)) = text ++ quote :: rest := by
  rw [firstLine]
  split
  · rfl
  · rename_i hfeed
    rw [List.nil_append, dropLineEnd, h.line hprint (by simpa using hfeed)]
    rfl

theorem Spells.length_le {quote : Char} {n : Nat} {text s : List Char} (h : Spells quote n text s) :
    s.length ≤ text.length := by
  induction h with
  | nil => exact Nat.le_refl 0
  | quote _ _ ih => exact Nat.succ_le_succ ih
  | piece hp _ ih =>
    obtain ⟨d, more, rfl, -⟩ := hp.head
    rw [List.length_cons, List.length_append, List.length_cons]
    omega

theorem string?_long {quote : Char} (hquote : quote = '"' ∨ quote = '\'') {text s : List Char}
    (h : Spells quote 0 text s) (hrest : rest.head? ≠ some quote) :
    string? (long quote (firstLine s) text ++ rest) = some (String.ofList s, rest) := by
  have hlength := h.length_le
  have hshape : long quote (firstLine s) text ++ rest = quote :: quote :: quote ::
      (firstLine s ++ (text ++ quote :: quote :: quote :: rest)) := by
    simp [long, List.replicate]
  have hread : ∀ fuel, isPrintable quote = true → quote ≠ '\\' → s.length < fuel →
      longString quote fuel (text ++ quote :: quote :: quote :: rest) = some (s, rest) :=
    fun _ hprint hslash hfuel => h.read (Nat.zero_le 2) hprint hslash hrest hfuel
  rw [hshape]
  rcases hquote with rfl | rfl
  · rw [string?, dropLineEnd_firstLine h (by decide), hread _ (by decide) (by decide)]
    · rfl
    · simp only [List.length_append, List.length_cons]
      omega
  · rw [string?, dropLineEnd_firstLine h (by decide), hread _ (by decide) (by decide)]
    · rfl
    · simp only [List.length_append, List.length_cons]
      omega

theorem writeString_eq (s : String) :
    writeString s =
      if isPlain s.toList then short s.toList
      else if isLiteral s.toList then '\'' :: (s.toList ++ ['\''])
      else if isLongPlain s.toList then long '"' (firstLine s.toList) (escaped true 2 0 s.toList)
      else if isLongLiteral s.toList then long '\'' (firstLine s.toList) s.toList
      else if s.toList.contains '\n' then long '"' (firstLine s.toList) (escaped true 2 0 s.toList)
      else short s.toList :=
  rfl

/-- A string is read from the form in which it is written, in front of anything but a quote. -/
theorem string?_writeString (s : String) (hdouble : rest.head? ≠ some '"')
    (hsingle : rest.head? ≠ some '\'') : string? (writeString s ++ rest) = some (s, rest) := by
  have hself : String.ofList s.toList = s := String.ofList_toList
  have hescaped := string?_long (.inl rfl) (spells_escaped s.toList 0) hdouble
  have hshort := string?_short s.toList hdouble
  rw [hself] at hescaped hshort
  rw [writeString_eq]
  split
  · exact hshort
  · split
    · rename_i hliteral
      rw [string?_literal hliteral hsingle, hself]
    · split
      · exact hescaped
      · split
        · rename_i hliteral
          simp only [isLongLiteral, Bool.and_eq_true, Bool.not_eq_true', decide_eq_true_eq] at hliteral
          have hrun := hliteral.2
          rw [longestRun_eq] at hrun
          have hspells := spells_literal (0, 0) hliteral.1 hrun
          have hlong := string?_long (.inr rfl) hspells hsingle
          rw [hself] at hlong
          exact hlong
        · split
          · exact hescaped
          · exact hshort

end

end Folio.Toml
