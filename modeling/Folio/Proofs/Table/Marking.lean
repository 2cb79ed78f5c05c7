import Folio.Table.Marker
import Folio.Document.Basic

set_option autoImplicit false

namespace Folio

structure IsKey (key : List Char) : Prop where
  ne_nil : key ≠ []
  hex : ∀ c ∈ key, Text.isHex c

theorem isKey_fingerprint (source : String) : IsKey (fingerprint source).toList := by
  have hlen : (Text.hexOfBytes (Blake3.hash source.toUTF8.toList)).length = 64 := by
    rw [Text.hexOfBytes_length, Blake3.hash_length]
  constructor
  · intro hnil
    have htake := congrArg List.length hnil
    rw [fingerprint, String.toList_ofList, List.length_take, hlen] at htake
    cases htake
  · intro c hc
    simp only [fingerprint, String.toList_ofList] at hc
    exact Text.isHex_of_mem_hexOfBytes (List.mem_of_mem_take hc)

def markerText (key digits : List Char) : List Char :=
  markerStart.toList ++ key ++ ['_'] ++ digits ++ markerStop.toList

structure IsOrdinal (digits : List Char) : Prop where
  ne_nil : digits ≠ []
  digit : ∀ c ∈ digits, Text.isDigit c

theorem isDigit_of_isDigit {c : Char} (h : c.isDigit) : Text.isDigit c := by
  simpa [Char.isDigit, Text.isDigit, Char.le_def] using h

theorem isOrdinal_toDigits (n : Nat) : IsOrdinal (Nat.toDigits 10 n) where
  ne_nil := Nat.toDigits_ne_nil
  digit c hc := isDigit_of_isDigit (Nat.isDigit_of_mem_toDigits (by decide) (by decide) hc)

theorem valueOfDigits_toDigits (n : Nat) : Text.valueOfDigits (Nat.toDigits 10 n) = n := by
  have h := Nat.ofDigitChars_ten_toDigits (n := n)
  rwa [Nat.ofDigitChars_eq_foldl] at h

theorem toList_placeholder (fingerprint : String) (ordinal : Nat) :
    (placeholder fingerprint ordinal).toList =
      markerText fingerprint.toList (Nat.toDigits 10 ordinal) := by
  simp [placeholder, markerText, Nat.toList_repr]

theorem afterLead?_append (lead cs : List Char) : afterLead? lead (lead ++ cs) = some cs := by
  simp [afterLead?]

theorem eq_append_of_afterLead? {lead cs rest : List Char} (h : afterLead? lead cs = some rest) :
    cs = lead ++ rest := by
  unfold afterLead? at h
  split at h
  · rename_i hp
    obtain ⟨t, rfl⟩ := List.isPrefixOf_iff_prefix.1 hp
    simpa using h
  · cases h

theorem takeWhile_digits {digits : List Char} (h : ∀ c ∈ digits, Text.isDigit c)
    (rest : List Char) :
    (digits ++ ']' :: rest).takeWhile Text.isDigit = digits ∧
      (digits ++ ']' :: rest).dropWhile Text.isDigit = ']' :: rest := by
  have hstop : Text.isDigit ']' = false := by decide
  rw [List.takeWhile_append_of_pos h, List.dropWhile_append_of_pos h]
  simp [hstop]

section

variable {key : List Char}

theorem markerAt?_markerText (hkey : IsKey key) {digits : List Char} (hdigits : IsOrdinal digits)
    (hbound : Text.valueOfDigits digits < ordinalBound) (rest : List Char) :
    markerAt? key (markerText key digits ++ rest) =
      some (Text.valueOfDigits digits, (markerText key digits).length) := by
  have hlead : markerText key digits ++ rest =
      (markerStart.toList ++ key ++ ['_']) ++ (digits ++ ']' :: ']' :: rest) := by
    simp [markerText, markerStop]
  obtain ⟨htake, hdrop⟩ := takeWhile_digits hdigits.digit (']' :: rest)
  have hbad : (key.isEmpty || !key.all Text.isHex) = false := by
    simpa using ⟨hkey.ne_nil, hkey.hex⟩
  have hfits : ¬(digits.isEmpty || decide (ordinalBound ≤ Text.valueOfDigits digits)) = true := by
    simpa using ⟨hdigits.ne_nil, hbound⟩
  rw [markerAt?, hbad, hlead, afterLead?_append]
  simp only [Bool.false_eq_true, if_false, htake, hdrop]
  rw [if_neg hfits]
  simp only [markerText, List.length_append, String.length_toList, List.length_singleton]

theorem isKey_of_markerAt? {cs : List Char} {r : Nat × Nat} (h : markerAt? key cs = some r) :
    IsKey key := by
  unfold markerAt? at h
  split at h
  · cases h
  · rename_i hkey
    have hok : key ≠ [] ∧ ∀ c ∈ key, Text.isHex c := by simpa using hkey
    exact ⟨hok.1, hok.2⟩

theorem eq_markerText_of_markerAt? {cs : List Char} {r : Nat × Nat}
    (h : markerAt? key cs = some r) :
    ∃ digits rest, IsOrdinal digits ∧ Text.valueOfDigits digits < ordinalBound ∧
      cs = markerText key digits ++ rest := by
  unfold markerAt? at h
  split at h
  · cases h
  · split at h
    · cases h
    · rename_i rest hrest
      dsimp only at h
      split at h
      · rename_i tail htail
        split at h
        · cases h
        · rename_i hfits
          have hok : rest.takeWhile Text.isDigit ≠ [] ∧
              Text.valueOfDigits (rest.takeWhile Text.isDigit) < ordinalBound := by
            simpa using hfits
          refine ⟨rest.takeWhile Text.isDigit, tail, ⟨hok.1, fun c hc => ?_⟩, hok.2, ?_⟩
          · exact List.all_eq_true.1 List.all_takeWhile c hc
          · have hsplit := List.takeWhile_append_dropWhile (p := Text.isDigit) (l := rest)
            rw [htail] at hsplit
            rw [eq_append_of_afterLead? hrest, markerText, List.append_assoc _ _ markerStop.toList,
              List.append_assoc _ _ tail]
            simp [hsplit, markerStop]
      · cases h

theorem mem_markerText (hkey : IsKey key) {digits : List Char} (hdigits : IsOrdinal digits)
    {c : Char} (hc : c ∈ markerText key digits) : c ≠ '\n' ∧ Text.charUnits c = 1 := by
  have hhex : ∀ c : Char, Text.isHex c → c ≠ '\n' ∧ Text.charUnits c = 1 := by
    intro c hc
    have hrange : 48 ≤ c.toNat ∧ c.toNat ≤ 102 := by
      simp only [Text.isHex, Bool.or_eq_true, Bool.and_eq_true, decide_eq_true_eq,
        Char.le_def] at hc
      simp only [Char.toNat, UInt32.le_iff_toNat_le] at hc ⊢
      rcases hc with hc | hc
      · exact ⟨hc.1, Nat.le_trans hc.2 (by decide)⟩
      · exact ⟨Nat.le_trans (by decide) hc.1, hc.2⟩
    constructor
    · rintro rfl
      exact absurd hrange.1 (by decide)
    · rw [Text.charUnits, if_pos (by omega)]
  have hdigit : ∀ c : Char, Text.isDigit c → Text.isHex c := by
    intro c hc
    rw [Text.isHex, Bool.or_eq_true]
    exact .inl hc
  have hfixed : (markerStart.toList ++ markerStop.toList).all fun c =>
      c != '\n' && Text.charUnits c == 1 := by decide
  have hplain : ∀ c ∈ markerStart.toList ++ markerStop.toList, c ≠ '\n' ∧ Text.charUnits c = 1 := by
    intro c hc
    simpa using List.all_eq_true.1 hfixed c hc
  simp only [markerText, List.mem_append] at hc
  rcases hc with (((hc | hc) | hc) | hc) | hc
  · exact hplain c (List.mem_append_left _ hc)
  · exact hhex c (hkey.hex c hc)
  · rw [List.mem_singleton.1 hc]
    decide
  · exact hhex c (hdigit c (hdigits.digit c hc))
  · exact hplain c (List.mem_append_right _ hc)

theorem exists_markerText_brackets (hkey : IsKey key) {digits : List Char}
    (hdigits : IsOrdinal digits) :
    ∃ c cs, markerText key digits = '[' :: '[' :: c :: cs ∧ '[' ∉ c :: cs := by
  have hfirst : markerStart.toList = '[' :: '[' :: 'Q' :: "UIRE_TABLE_".toList := by decide
  refine ⟨'Q', "UIRE_TABLE_".toList ++ key ++ ['_'] ++ digits ++ markerStop.toList,
    by simp [markerText, hfirst], ?_⟩
  have hhex : '[' ∉ key := fun h => absurd (hkey.hex _ h) (by decide)
  have hordinal : '[' ∉ digits := fun h => absurd (hdigits.digit _ h) (by decide)
  have hlead : '[' ∉ "UIRE_TABLE_".toList := by decide
  have hstop : '[' ∉ markerStop.toList := by decide
  simp only [List.mem_cons, List.mem_append, not_or]
  exact ⟨by decide, ⟨⟨⟨hlead, hhex⟩, by decide⟩, hordinal⟩, hstop⟩

end

theorem unitsOf_eq_length {cs : List Char} (h : ∀ c ∈ cs, Text.charUnits c = 1) :
    Text.unitsOf cs = cs.length := by
  induction cs with
  | nil => rfl
  | cons c cs ih =>
    rw [List.forall_mem_cons] at h
    rw [Text.unitsOf, h.1, ih h.2, List.length_cons, Nat.add_comm]

def firstLine : List Char → List Char
  | [] => []
  | c :: cs => if c = '\n' then ['\n'] else c :: firstLine cs

theorem firstLine_append {as : List Char} (h : '\n' ∉ as) (bs : List Char) :
    firstLine (as ++ bs) = as ++ firstLine bs := by
  induction as with
  | nil => rfl
  | cons a as ih =>
    rw [List.mem_cons, not_or] at h
    rw [List.cons_append, firstLine, if_neg (Ne.symm h.1), ih h.2, List.cons_append]

theorem exists_firstLine_append (cs : List Char) : ∃ rest, cs = firstLine cs ++ rest := by
  induction cs with
  | nil => exact ⟨[], rfl⟩
  | cons c cs ih =>
    obtain ⟨rest, hrest⟩ := ih
    by_cases hc : c = '\n'
    · exact ⟨cs, by simp [firstLine, hc]⟩
    · exact ⟨rest, by rw [firstLine, if_neg hc, List.cons_append, ← hrest]⟩

theorem markerAt?_firstLine {key : List Char} (hkey : IsKey key) (cs : List Char) :
    markerAt? key (firstLine cs) = markerAt? key cs := by
  cases h : markerAt? key cs with
  | some r =>
    obtain ⟨digits, rest, hdigits, hbound, rfl⟩ := eq_markerText_of_markerAt? h
    have hline : '\n' ∉ markerText key digits := fun hmem =>
      (mem_markerText hkey hdigits hmem).1 rfl
    rw [markerAt?_markerText hkey hdigits hbound] at h
    rw [firstLine_append hline, markerAt?_markerText hkey hdigits hbound, h]
  | none =>
    cases h' : markerAt? key (firstLine cs) with
    | none => rfl
    | some r =>
      obtain ⟨digits, rest, hdigits, hbound, hline⟩ := eq_markerText_of_markerAt? h'
      obtain ⟨tail, htail⟩ := exists_firstLine_append cs
      rw [htail, hline, List.append_assoc, markerAt?_markerText hkey hdigits hbound] at h
      cases h

end Folio
