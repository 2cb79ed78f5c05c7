import Folio.Json.Read
import Folio.Json.Write
import Folio.Proofs.Table.Marking
import Mathlib.Data.List.TakeWhile
import Mathlib.Tactic.IntervalCases

set_option autoImplicit false

namespace Folio.Json

def Number.again? (n : Number) : Option Number :=
  match literal? n.write with
  | some (l, []) => l.value?
  | _ => none

def goesOn (c : Char) : Bool := Text.isDigit c || c == '.' || c == 'e' || c == 'E'

def StopsNumber (rest : List Char) : Prop := ∀ c ∈ rest.head?, goesOn c = false

section

variable {cs r rest : List Char}

theorem StopsNumber.head {c : Char} (h : StopsNumber (c :: rest)) : goesOn c = false := h c rfl

theorem digits_append (hrest : StopsNumber rest) (cs : List Char) :
    digits (cs ++ rest) = ((digits cs).1, (digits cs).2 ++ rest) := by
  induction cs with
  | nil =>
    cases rest with
    | nil => rfl
    | cons c rest =>
      have hc : Text.isDigit c = false := by
        have hgoes := hrest.head
        simp only [goesOn, Bool.or_eq_false_iff] at hgoes
        exact hgoes.1.1.1
      simp [digits, hc]
  | cons c cs ih =>
    simp only [digits, Prod.mk.injEq, List.cons_append, List.takeWhile_cons, List.dropWhile_cons] at ih ⊢
    split
    · exact ⟨congrArg (c :: ·) ih.1, ih.2⟩
    · exact ⟨rfl, rfl⟩

theorem fraction?_of_ne {c : Char} (hc : c ≠ '.') (cs : List Char) :
    fraction? (c :: cs) = some (none, c :: cs) := by
  rw [fraction?.eq_def]
  split
  · rename_i heq
    exact absurd (List.cons.inj heq).1 hc
  · rfl

theorem fraction?_append (hrest : StopsNumber rest) {f : Option (List Char)}
    (h : fraction? cs = some (f, r)) : fraction? (cs ++ rest) = some (f, r ++ rest) := by
  cases cs with
  | nil =>
    cases h
    cases rest with
    | nil => rfl
    | cons c rest =>
      refine fraction?_of_ne ?_ rest
      rintro rfl
      exact absurd hrest.head (by decide)
  | cons c cs =>
    by_cases hc : c = '.'
    · subst hc
      rw [List.cons_append, fraction?, digits_append hrest]
      rw [fraction?] at h
      obtain ⟨ds, r', hdigits⟩ : ∃ ds r', digits cs = (ds, r') := ⟨_, _, rfl⟩
      rw [hdigits] at h ⊢
      cases ds with
      | nil => cases h
      | cons d ds =>
        cases h
        rfl
    · rw [List.cons_append, fraction?_of_ne hc]
      rw [fraction?_of_ne hc] at h
      cases h
      rfl

theorem exponent?_of_ne {c : Char} (hc : (c == 'e' || c == 'E') = false) (cs : List Char) :
    exponent? (c :: cs) = some (none, c :: cs) := by
  rw [exponent?.eq_def]
  exact if_neg (by simp [hc])

def exponentSign (cs : List Char) : Bool × List Char :=
  match cs with
  | '+' :: rest => (false, rest)
  | '-' :: rest => (true, rest)
  | _ => (false, cs)

theorem exponent?_of_mark {c : Char} (hc : (c == 'e' || c == 'E') = true) (cs : List Char) :
    exponent? (c :: cs) =
      match digits (exponentSign cs).2 with
      | ([], _) => none
      | (ds, rest) => some (some ((exponentSign cs).1, ds), rest) := by
  rw [exponent?.eq_def]
  exact if_pos hc

theorem exponentSign_append {c : Char} (cs rest : List Char) :
    exponentSign (c :: cs ++ rest) = ((exponentSign (c :: cs)).1, (exponentSign (c :: cs)).2 ++ rest) := by
  rw [exponentSign.eq_def, exponentSign.eq_def]
  split <;> simp_all

theorem exponent?_append (hrest : StopsNumber rest) {e : Option (Bool × List Char)}
    (h : exponent? cs = some (e, r)) : exponent? (cs ++ rest) = some (e, r ++ rest) := by
  cases cs with
  | nil =>
    cases h
    cases rest with
    | nil => rfl
    | cons c rest =>
      refine exponent?_of_ne ?_ rest
      have hgoes := hrest.head
      simp only [goesOn, Bool.or_eq_false_iff] at hgoes ⊢
      exact ⟨hgoes.1.2, hgoes.2⟩
  | cons c cs =>
    cases hc : c == 'e' || c == 'E' with
    | false =>
      rw [exponent?_of_ne hc] at h
      cases h
      exact exponent?_of_ne hc _
    | true =>
      rw [exponent?_of_mark hc] at h
      rw [List.cons_append, exponent?_of_mark hc]
      cases cs with
      | nil => cases h
      | cons d cs =>
        rw [exponentSign_append, digits_append hrest]
        obtain ⟨ds, r', hdigits⟩ : ∃ ds r', digits (exponentSign (d :: cs)).2 = (ds, r') := ⟨_, _, rfl⟩
        rw [hdigits] at h ⊢
        cases ds with
        | nil => cases h
        | cons =>
          cases h
          rfl

def literalSign (cs : List Char) : Bool × List Char :=
  match cs with
  | '-' :: rest => (true, rest)
  | _ => (false, cs)

theorem literalSign_append {c : Char} (cs rest : List Char) :
    literalSign (c :: cs ++ rest) = ((literalSign (c :: cs)).1, (literalSign (c :: cs)).2 ++ rest) := by
  rw [literalSign.eq_def, literalSign.eq_def]
  split <;> simp_all

def isWhole : List Char → Bool
  | [] | '0' :: _ :: _ => false
  | _ => true

def literalBody? (negative : Bool) (cs : List Char) : Option (Literal × List Char) :=
  if isWhole (digits cs).1 then
    (fraction? (digits cs).2).bind fun (fraction, rest) =>
      (exponent? rest).map fun (exponent, rest) =>
        (⟨negative, (digits cs).1, fraction, exponent⟩, rest)
  else none

theorem literal?_eq (cs : List Char) :
    literal? cs = literalBody? (literalSign cs).1 (literalSign cs).2 := by
  unfold literal?
  split
  rename_i negative cs' heq
  have hsign : literalSign cs = (negative, cs') := heq
  rw [hsign, literalBody?]
  split
  · rename_i hdigits
    simp [hdigits, isWhole]
  · rename_i hdigits
    simp [hdigits, isWhole]
  · rename_i whole rest hnil hzero hdigits
    have hwhole : isWhole whole = true := by
      rw [isWhole.eq_def]
      split
      · exact (hnil rfl).elim
      · exact (hzero _ _ rfl).elim
      · rfl
    rw [hdigits, if_pos hwhole]
    cases hf : fraction? rest with
    | none => rfl
    | some f =>
      cases he : exponent? f.2 with
      | none => simp [he]
      | some e => simp [he]

theorem literalBody?_append (hrest : StopsNumber rest) {negative : Bool} {l : Literal}
    (h : literalBody? negative cs = some (l, r)) :
    literalBody? negative (cs ++ rest) = some (l, r ++ rest) := by
  rw [literalBody?] at h ⊢
  rw [digits_append hrest]
  split at h
  · rename_i hwhole
    rw [if_pos hwhole]
    obtain ⟨⟨f, r₁⟩, hf, h⟩ := Option.bind_eq_some_iff.1 h
    obtain ⟨⟨e, r₂⟩, he, h⟩ := Option.map_eq_some_iff.1 h
    cases h
    simp [fraction?_append hrest hf, exponent?_append hrest he]
  · cases h

theorem literal?_append (hrest : StopsNumber rest) {l : Literal} (h : literal? cs = some (l, r)) :
    literal? (cs ++ rest) = some (l, r ++ rest) := by
  cases cs with
  | nil => cases h
  | cons c cs =>
    rw [literal?_eq] at h ⊢
    rw [literalSign_append]
    exact literalBody?_append hrest h

theorem head_of_literal? {c : Char} {l : Literal} (h : literal? (c :: cs) = some (l, r)) :
    c = '-' ∨ Text.isDigit c = true := by
  by_cases hc : c = '-'
  · exact .inl hc
  · refine .inr ?_
    have hsign : literalSign (c :: cs) = (false, c :: cs) := by
      rw [literalSign.eq_def]
      split
      · rename_i heq
        exact absurd (List.cons.inj heq).1 hc
      · rfl
    rw [literal?_eq, hsign, literalBody?] at h
    split at h
    · rename_i hwhole
      by_contra hdigit
      simp [digits, hdigit, isWhole] at hwhole
    · cases h

end

theorem head?_decimal {n : Nat} (h : n ≠ 0) : (Text.decimal n).head? ≠ some '0' := by
  induction n using Nat.strongRecOn with
  | ind n ih =>
    by_cases hn : n < 10
    · rw [Text.decimal, Nat.toDigits_of_lt_base hn]
      interval_cases n <;> first | exact absurd rfl h | decide
    · have htail := ih (n / 10) (by omega) (by omega)
      rw [Text.decimal] at htail ⊢
      rw [Nat.toDigits_of_base_le (by decide) (by omega), List.head?_append]
      cases hds : (Nat.toDigits 10 (n / 10)).head? with
      | none => exact absurd (List.head?_eq_none_iff.1 hds) Nat.toDigits_ne_nil
      | some c =>
        rw [hds] at htail
        exact htail

theorem isWhole_decimal (n : Nat) : isWhole (Text.decimal n) = true := by
  by_cases hn : n = 0
  · rw [hn]
    rfl
  · have hhead := head?_decimal hn
    rw [isWhole.eq_def]
    split
    · rename_i heq
      exact absurd heq Nat.toDigits_ne_nil
    · rename_i heq
      rw [heq] at hhead
      exact absurd rfl hhead
    · rfl

theorem digits_decimal (n : Nat) : digits (Text.decimal n) = (Text.decimal n, []) := by
  have hall : ∀ c ∈ Text.decimal n, Text.isDigit c = true := (isOrdinal_toDigits n).digit
  rw [digits, List.takeWhile_eq_self_iff.2 hall, List.dropWhile_eq_nil_iff.2 hall]

theorem literalBody?_decimal (negative : Bool) (n : Nat) :
    literalBody? negative (Text.decimal n) = some (⟨negative, Text.decimal n, none, none⟩, []) := by
  rw [literalBody?, digits_decimal, if_pos (isWhole_decimal n)]
  rfl

theorem literalSign_decimal (n : Nat) : literalSign (Text.decimal n) = (false, Text.decimal n) := by
  rw [literalSign.eq_def]
  split
  · rename_i rest heq
    have hdigit := (isOrdinal_toDigits n).digit '-' (by rw [← Text.decimal, heq]; exact List.mem_cons_self)
    exact absurd hdigit (by decide)
  · rfl

theorem literal?_decimal (n : Nat) :
    literal? (Text.decimal n) = some (⟨false, Text.decimal n, none, none⟩, []) := by
  rw [literal?_eq, literalSign_decimal]
  exact literalBody?_decimal false n

theorem le_foldl_digits (cs : List Char) (n : Nat) :
    n ≤ cs.foldl (fun n c => 10 * n + Text.digitValue c) n := by
  induction cs generalizing n with
  | nil => exact Nat.le_refl n
  | cons c cs ih =>
    have hstep := ih (10 * n + Text.digitValue c)
    rw [List.foldl_cons]
    omega

theorem appendDigits_of_lt (bound : Nat) (cs : List Char) (n : Nat)
    (h : cs.foldl (fun n c => 10 * n + Text.digitValue c) n < bound) :
    appendDigits bound n cs = (cs.foldl (fun n c => 10 * n + Text.digitValue c) n, []) := by
  induction cs generalizing n with
  | nil => rfl
  | cons c cs ih =>
    have hle := le_foldl_digits cs (10 * n + Text.digitValue c)
    rw [List.foldl_cons] at h
    rw [appendDigits, if_pos (by omega)]
    exact ih _ h

theorem again?_natural {n : Nat} (h : n < naturalBound) :
    (Number.natural n).again? = some (.natural n) := by
  have hvalue : Text.valueOfDigits (Text.decimal n) = n := valueOfDigits_toDigits n
  have hdigits := appendDigits_of_lt naturalBound (Text.decimal n) 0
    (by rw [← Text.valueOfDigits, hvalue]; exact h)
  rw [← Text.valueOfDigits, hvalue] at hdigits
  rw [Number.again?, Number.write, literal?_decimal]
  simp [Literal.value?, hdigits]

end Folio.Json
