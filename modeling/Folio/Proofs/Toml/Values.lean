import Folio.Proofs.Table.Marking
import Folio.Proofs.Toml.Strings
import Mathlib.Tactic.IntervalCases

set_option autoImplicit false

namespace Folio.Toml

def isSolid (c : Char) : Bool := !isGap c && c != '#' && c != '\n' && c != '\r'

section

variable {c : Char}

theorem skipGap_cons (hc : isGap c = false) (rest : List Char) : skipGap (c :: rest) = c :: rest :=
  List.dropWhile_cons_of_neg (by simp [hc])

theorem isGap_of_isSolid (hc : isSolid c = true) : isGap c = false := by
  simp only [isSolid, Bool.and_eq_true, Bool.not_eq_true'] at hc
  exact hc.1.1.1

theorem skipLines_cons (hc : isSolid c = true) (fuel : Nat) (rest : List Char) :
    skipLines fuel (c :: rest) = c :: rest := by
  simp only [isSolid, Bool.and_eq_true, Bool.not_eq_true', bne_iff_ne] at hc
  obtain ⟨⟨⟨hgap, hmark⟩, hfeed⟩, hreturn⟩ := hc
  have hcomment : skipComment (c :: rest) = c :: rest := by
    rw [skipComment.eq_def]
    split
    · rename_i heq
      exact absurd (List.cons.inj heq).1 hmark
    · rfl
  have hline : lineEnd? (c :: rest) = none := by
    rw [lineEnd?.eq_def]
    split
    · rename_i heq
      exact absurd (List.cons.inj heq).1 hfeed
    · rename_i heq
      exact absurd (List.cons.inj heq).1 hreturn
    · rfl
  cases fuel with
  | zero => rfl
  | succ fuel =>
    rw [skipLines, skipGap_cons hgap, hcomment]
    simp only [hline]

theorem skipLines_feed (fuel : Nat) (rest : List Char) :
    skipLines (fuel + 1) ('\n' :: rest) = skipLines fuel rest := rfl

theorem skipLines_gap {b : List Char} (hb : ∀ c ∈ b, isGap c = true) (hc : isSolid c = true) (fuel : Nat)
    (rest : List Char) : skipLines (fuel + 1) (b ++ c :: rest) = c :: rest := by
  have hskip : skipGap (b ++ c :: rest) = skipGap (c :: rest) := List.dropWhile_append_of_pos hb
  have hcons := skipLines_cons hc (fuel + 1) rest
  rw [skipLines] at hcons ⊢
  rw [hskip]
  exact hcons

end

def isFloatChar (c : Char) : Bool := Text.isDigit c || c == '.' || c == '-'

theorem eq_ofNat_of_isDigit {c : Char} (h : Text.isDigit c = true) :
    ∃ n, 48 ≤ n ∧ n ≤ 57 ∧ c = Char.ofNat n := by
  simp only [Text.isDigit, Bool.and_eq_true, decide_eq_true_eq] at h
  exact ⟨c.toNat, h.1, h.2, (Char.ofNat_toNat c).symm⟩

theorem isFloatChar_spec {c : Char} (h : isFloatChar c = true) :
    isScalarChar c = true ∧ c ∉ ['t', 'f', '[', '\x7b', '"', '\''] := by
  simp only [isFloatChar, Bool.or_eq_true, beq_iff_eq] at h
  rcases h with (h | rfl) | rfl
  · obtain ⟨n, hlow, hhigh, rfl⟩ := eq_ofNat_of_isDigit h
    interval_cases n <;> decide
  · decide
  · decide

theorem isFloatChar_positional {s : Scientific} {c : Char} (h : c ∈ s.positional) :
    isFloatChar c = true := by
  have hdecimal : ∀ c ∈ Text.decimal s.digits, isFloatChar c = true := by
    intro c hc
    rw [isFloatChar, (isOrdinal_toDigits s.digits).digit c hc]
    rfl
  have hzeros : ∀ n, ∀ c ∈ List.replicate n '0', isFloatChar c = true := by
    intro n c hc
    rw [List.eq_of_mem_replicate hc]
    rfl
  rw [Scientific.positional] at h
  split at h
  · simp only [List.mem_append, List.mem_cons, List.not_mem_nil, or_false] at h
    rcases h with (h | h) | rfl | rfl
    · exact hdecimal c h
    · exact hzeros _ c h
    · rfl
    · rfl
  · dsimp only at h
    split at h
    · simp only [List.mem_append, List.mem_cons] at h
      rcases h with h | rfl | h
      · exact hdecimal c (List.mem_of_mem_take h)
      · rfl
      · exact hdecimal c (List.mem_of_mem_drop h)
    · simp only [List.mem_append, List.mem_cons, List.not_mem_nil, or_false] at h
      rcases h with ((rfl | rfl) | h) | h
      · rfl
      · rfl
      · exact hzeros _ c h
      · exact hdecimal c h

theorem positional_ne_nil (s : Scientific) : s.positional ≠ [] := by
  rw [Scientific.positional]
  split
  · simp
  · dsimp only
    split <;> simp

theorem writeFloat_spec (x : Double) : (∀ c ∈ writeFloat x, isScalarChar c = true) ∧
    ∃ c cs, writeFloat x = c :: cs ∧ c ∉ ['t', 'f', '[', '\x7b', '"', '\''] := by
  have hfinite : ∀ text : List Char, text ≠ [] → (∀ c ∈ text, isFloatChar c = true) →
      (∀ c ∈ text, isScalarChar c = true) ∧
        ∃ c cs, text = c :: cs ∧ c ∉ ['t', 'f', '[', '\x7b', '"', '\''] := by
    intro text hne hall
    obtain ⟨c, cs, rfl⟩ := List.exists_cons_of_ne_nil hne
    exact ⟨fun d hd => (isFloatChar_spec (hall d hd)).1, c, cs, rfl,
      (isFloatChar_spec (hall c List.mem_cons_self)).2⟩
  have hbody : (if x.isZero then ['0', '.', '0'] else x.shortest.positional) ≠ [] ∧
      ∀ c ∈ (if x.isZero then ['0', '.', '0'] else x.shortest.positional), isFloatChar c = true := by
    split
    · exact ⟨by simp, List.all_eq_true.1 rfl⟩
    · exact ⟨positional_ne_nil _, fun c hc => isFloatChar_positional hc⟩
  rw [writeFloat]
  split
  · have hwrite : x.write everywherePositional = if x.negative
        then '-' :: (if x.isZero then ['0', '.', '0'] else x.shortest.positional)
        else if x.isZero then ['0', '.', '0'] else x.shortest.positional := rfl
    rw [hwrite]
    split
    · refine hfinite _ (List.cons_ne_nil _ _) fun c hc => ?_
      rcases List.mem_cons.1 hc with rfl | hc
      · rfl
      · exact hbody.2 c hc
    · exact hfinite _ hbody.1 hbody.2
  · cases x.negative <;> cases x.isInfinite <;> exact ⟨List.all_eq_true.1 rfl, _, _, rfl, by decide⟩

theorem scalarText_append {token : List Char} (h : ∀ c ∈ token, isScalarChar c = true)
    (rest : List Char) : scalarText (token ++ '\n' :: rest) = token := by
  have hfeed : ∀ c ∈ ('\n' :: rest).head?, isScalarChar c = false := by
    rintro c ⟨rfl⟩
    rfl
  obtain ⟨htake, hdrop⟩ := takeWhile_boundary h hfeed
  rw [scalarText, htake, hdrop]
  split
  · rename_i heq
    cases heq
  · rfl

theorem value?_cons {c : Char} (hc : c ∉ ['t', 'f', '[', '\x7b']) (fuel depth : Nat) (cs : List Char) :
    value? (fuel + 1) depth (c :: cs) =
      if c == '"' || c == '\'' then (string? (c :: cs)).map fun r => (.string r.1, r.2)
      else (scalar? (scalarText (c :: cs))).map fun v => (v, (c :: cs).drop (scalarText (c :: cs)).length) := by
  simp only [List.mem_cons, List.not_mem_nil, or_false, not_or] at hc
  obtain ⟨ht, hf, hbracket, hbrace⟩ := hc
  rw [value?.eq_def]
  simp only
  split
  · rename_i heq
    exact absurd (List.cons.inj heq).1 ht
  · rename_i heq
    exact absurd (List.cons.inj heq).1 hf
  · rename_i heq
    exact absurd (List.cons.inj heq).1 hbracket
  · rename_i heq
    exact absurd (List.cons.inj heq).1 hbrace
  · rename_i heq
    cases heq
    rfl
  · rename_i heq
    cases heq

def floatAgain? (x : Double) : Option Double :=
  match scalar? (writeFloat x) with
  | some (.float y) => some y
  | _ => none

theorem value?_writeFloat {x y : Double} (h : floatAgain? x = some y) (fuel depth : Nat)
    (rest : List Char) :
    value? (fuel + 1) depth (writeFloat x ++ '\n' :: rest) = some (.float y, '\n' :: rest) := by
  have hscalar : scalar? (writeFloat x) = some (.float y) := by
    rw [floatAgain?] at h
    split at h
    · rename_i heq
      rw [heq, Option.some.inj h]
    · cases h
  obtain ⟨hall, c, cs, hcs, hc⟩ := writeFloat_spec x
  have htoken := scalarText_append hall rest
  rw [hcs, List.cons_append] at htoken ⊢
  rw [value?_cons (fun hmem => hc (List.mem_append_left ['"', '\''] hmem)), if_neg, htoken, ← hcs,
    hscalar, Option.map_some, ← List.cons_append, ← hcs, List.drop_left]
  simp only [List.mem_cons, List.not_mem_nil, or_false, not_or] at hc
  simp [hc.2.2.2.2.1, hc.2.2.2.2.2]

theorem value?_writeBool (b : Bool) (fuel depth : Nat) (rest : List Char) :
    value? (fuel + 1) depth (writeBool b ++ rest) = some (.boolean b, rest) := by
  have htrue : writeBool true = ['t', 'r', 'u', 'e'] := by decide
  have hfalse : writeBool false = ['f', 'a', 'l', 's', 'e'] := by decide
  cases b with
  | true =>
    rw [htrue]
    simp only [List.cons_append, List.nil_append, value?]
  | false =>
    rw [hfalse]
    simp only [List.cons_append, List.nil_append, value?]

theorem head_writeString (s : String) :
    ∃ c cs, writeString s = c :: cs ∧ (c = '"' ∨ c = '\'') := by
  rw [writeString_eq]
  repeat' split
  · exact ⟨_, _, rfl, .inl rfl⟩
  · exact ⟨_, _, rfl, .inr rfl⟩
  · exact ⟨_, _, rfl, .inl rfl⟩
  · exact ⟨_, _, rfl, .inr rfl⟩
  · exact ⟨_, _, rfl, .inl rfl⟩
  · exact ⟨_, _, rfl, .inl rfl⟩

theorem two_le_length_writeString (s : String) : 2 ≤ (writeString s).length := by
  rw [writeString_eq]
  repeat' split
  all_goals
    simp only [short, long, List.length_cons, List.length_append, List.length_replicate,
      List.length_nil]
    omega

theorem value?_writeString (s : String) (fuel depth : Nat) {c : Char} (hc : c ≠ '"') (hc' : c ≠ '\'')
    (rest : List Char) : value? (fuel + 1) depth (writeString s ++ c :: rest) = some (.string s, c :: rest) := by
  have hread : string? (writeString s ++ c :: rest) = some (s, c :: rest) :=
    string?_writeString s (by simpa using hc) (by simpa using hc')
  obtain ⟨q, cs, hcs, hq⟩ := head_writeString s
  rw [hcs, List.cons_append] at hread ⊢
  rcases hq with rfl | rfl
  · rw [value?_cons (by decide), if_pos (by decide), hread]
    rfl
  · rw [value?_cons (by decide), if_pos (by decide), hread]
    rfl

theorem skipLines_writeString {b : List Char} (hb : ∀ c ∈ b, isGap c = true) (s : String) (fuel : Nat)
    (rest : List Char) : skipLines (fuel + 1) (b ++ (writeString s ++ rest)) = writeString s ++ rest := by
  obtain ⟨q, cs, hcs, hq⟩ := head_writeString s
  have hsolid : isSolid q = true := by rcases hq with rfl | rfl <;> decide
  rw [hcs, List.cons_append]
  exact skipLines_gap hb hsolid fuel (cs ++ rest)

theorem head?_writeString (s : String) (rest : List Char) : (writeString s ++ rest).head? ≠ some ']' := by
  obtain ⟨q, cs, hcs, hq⟩ := head_writeString s
  rw [hcs]
  rcases hq with rfl | rfl <;> simp

theorem items?_closed (fuel depth : Nat) {cs rest : List Char}
    (h : skipLines (cs.length + 1) cs = ']' :: rest) : items? (fuel + 1) depth cs = some ([], rest) := by
  rw [items?.eq_def]
  simp only [h]

theorem items?_of_value {fuel depth : Nat} {cs cs' rest more : List Char} {v : Toml}
    (hskip : skipLines (cs.length + 1) cs = cs') (hhead : cs'.head? ≠ some ']')
    (hvalue : value? fuel depth cs' = some (v, rest)) :
    (skipLines (rest.length + 1) rest = ']' :: more → items? (fuel + 1) depth cs = some ([v], more)) ∧
      (skipLines (rest.length + 1) rest = ',' :: more → items? (fuel + 1) depth cs =
        (items? fuel depth more).map fun r => (v :: r.1, r.2)) := by
  -- This rules the first case of the match out, in which the items end.
  have hopen : ∀ r, cs' ≠ ']' :: r := by
    rintro r rfl
    exact hhead rfl
  constructor
  all_goals
    intro hstop
    rw [items?.eq_def]
    simp only [hskip, hvalue, hstop]

theorem items?_line (s : String) (fuel depth : Nat) (rest : List Char) :
    items? (fuel + 2) depth ("\n    ".toList ++ writeString s ++ [','] ++ rest) =
      (items? (fuel + 1) depth rest).map fun r => (.string s :: r.1, r.2) := by
  have hshape : "\n    ".toList ++ writeString s ++ [','] ++ rest =
      '\n' :: ([' ', ' ', ' ', ' '] ++ (writeString s ++ ',' :: rest)) := by
    simp
  have hskip := skipLines_writeString (b := [' ', ' ', ' ', ' ']) (List.all_eq_true.1 rfl) s
    ([' ', ' ', ' ', ' '] ++ (writeString s ++ ',' :: rest)).length (',' :: rest)
  rw [hshape]
  refine (items?_of_value ?_ (head?_writeString s _)
    (value?_writeString s fuel depth (by decide) (by decide) rest)).2 (skipLines_cons (by decide) _ rest)
  rw [List.length_cons, skipLines_feed, hskip]

theorem items?_writeLines (ss : List String) (fuel depth : Nat) (hfuel : ss.length < fuel)
    (rest : List Char) :
    items? (fuel + 1) depth ((ss.flatMap fun s => "\n    ".toList ++ writeString s ++ [',']) ++
      '\n' :: ']' :: rest) = some (ss.map .string, rest) := by
  induction ss generalizing fuel with
  | nil =>
    refine items?_closed fuel depth ?_
    rw [List.flatMap_nil, List.nil_append, skipLines_feed, skipLines_cons (by decide)]
  | cons s ss ih =>
    cases fuel with
    | zero => cases hfuel
    | succ fuel =>
      rw [List.flatMap_cons, List.append_assoc, items?_line, ih fuel (Nat.lt_of_succ_lt_succ hfuel)]
      rfl

theorem length_flatMap_writeLines (ss : List String) :
    8 * ss.length ≤ (ss.flatMap fun s => "\n    ".toList ++ writeString s ++ [',']).length := by
  induction ss with
  | nil => exact Nat.le_refl 0
  | cons s ss ih =>
    have hlong := two_le_length_writeString s
    have hblank : "\n    ".toList.length = 5 := by decide
    simp only [List.flatMap_cons, List.length_append, List.length_cons, List.length_nil, hblank]
    omega

theorem value?_writeStrings (ss : List String) (fuel depth : Nat) (hfuel : (writeStrings ss).length < fuel)
    (rest : List Char) : value? (fuel + 1) (depth + 1) (writeStrings ss ++ rest) =
      some (.array (ss.map .string), rest) := by
  have hopen : ∀ cs vs, items? fuel depth cs = some (vs, rest) →
      value? (fuel + 1) (depth + 1) ('[' :: cs) = some (.array vs, rest) := by
    intro cs vs h
    rw [value?, if_neg (by simp), Nat.add_sub_cancel, h]
    rfl
  rcases ss with - | ⟨s, - | ⟨t, ss⟩⟩
  · obtain ⟨fuel, rfl⟩ : ∃ n, fuel = n + 1 := ⟨fuel - 1, by simp [writeStrings] at hfuel; omega⟩
    refine hopen _ _ (items?_closed fuel depth ?_)
    exact skipLines_cons (by decide) _ _
  · have hlong := two_le_length_writeString s
    simp only [writeStrings, List.length_cons, List.length_append, List.length_nil] at hfuel
    obtain ⟨fuel, rfl⟩ : ∃ n, fuel = n + 2 := ⟨fuel - 2, by omega⟩
    rw [writeStrings, List.cons_append, List.append_assoc]
    refine hopen _ _ ((items?_of_value ?_ (head?_writeString s _)
      (value?_writeString s fuel depth (by decide) (by decide) rest)).1 (skipLines_cons (by decide) _ rest))
    exact skipLines_writeString (b := []) (by simp) s _ _
  · have hlines := length_flatMap_writeLines (s :: t :: ss)
    have hshape : writeStrings (s :: t :: ss) ++ rest = '[' ::
        (((s :: t :: ss).flatMap fun s => "\n    ".toList ++ writeString s ++ [',']) ++
          '\n' :: ']' :: rest) := by
      simp [writeStrings]
    have hlength : (writeStrings (s :: t :: ss)).length =
        ((s :: t :: ss).flatMap fun s => "\n    ".toList ++ writeString s ++ [',']).length + 3 := by
      simp only [writeStrings, List.length_cons, List.length_append, List.length_nil]
    obtain ⟨fuel, rfl⟩ : ∃ n, fuel = n + 1 := ⟨fuel - 1, by omega⟩
    rw [hshape]
    exact hopen _ _ (items?_writeLines (s :: t :: ss) fuel depth (by omega) rest)

end Folio.Toml
