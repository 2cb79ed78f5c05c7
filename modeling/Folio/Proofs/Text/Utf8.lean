import Folio.Text.Utf8

set_option autoImplicit false

namespace Folio.Text

theorem toNat_valid (c : Char) : c.toNat < 0xd800 ∨ (0xdfff < c.toNat ∧ c.toNat < 0x110000) :=
  c.valid

section

variable {v : Nat}

theorem sequenceShape?_two (hv : 0x80 ≤ v) (hv' : v ≤ 0x7ff) :
    sequenceShape? (v / 64 % 32 + 192) = some (0x80, 0xbf, 0) := by
  rw [sequenceShape?, if_pos]
  simp only [Bool.and_eq_true, decide_eq_true_eq]
  omega

theorem sequenceShape?_three (hv : 0x7ff < v) (hv' : v ≤ 0xffff) (hs : v < 0xd800 ∨ 0xdfff < v) :
    ∃ low high, sequenceShape? (v / 4096 % 16 + 224) = some (low, high, 1) ∧
      low ≤ v / 64 % 64 + 128 ∧ v / 64 % 64 + 128 ≤ high := by
  have hlead : v / 4096 % 16 = v / 4096 := by omega
  rw [hlead]
  by_cases h0 : v / 4096 = 0
  · exact ⟨0xa0, 0xbf, by rw [h0]; rfl, by omega, by omega⟩
  by_cases h13 : v / 4096 = 13
  · exact ⟨0x80, 0x9f, by rw [h13]; rfl, by omega, by omega⟩
  refine ⟨0x80, 0xbf, ?_, by omega, by omega⟩
  rw [sequenceShape?, if_neg, if_neg, if_neg, if_pos]
  all_goals
    simp only [Bool.and_eq_true, decide_eq_true_eq, beq_iff_eq]
    omega

theorem sequenceShape?_four (hv : 0xffff < v) (hv' : v < 0x110000) :
    ∃ low high, sequenceShape? (v / 262144 % 8 + 240) = some (low, high, 2) ∧
      low ≤ v / 4096 % 64 + 128 ∧ v / 4096 % 64 + 128 ≤ high := by
  have hlead : v / 262144 % 8 = v / 262144 := by omega
  rw [hlead]
  by_cases h0 : v / 262144 = 0
  · exact ⟨0x90, 0xbf, by rw [h0]; rfl, by omega, by omega⟩
  by_cases h4 : v / 262144 = 4
  · exact ⟨0x80, 0x8f, by rw [h4]; rfl, by omega, by omega⟩
  refine ⟨0x80, 0xbf, ?_, by omega, by omega⟩
  rw [sequenceShape?, if_neg, if_neg, if_neg, if_neg, if_neg, if_pos]
  all_goals
    simp only [Bool.and_eq_true, decide_eq_true_eq, beq_iff_eq]
    omega

end

theorem firstChar_sequence {b second : UInt8} {rest : List UInt8} {low high more : Nat}
    (hb : 0x80 ≤ b.toNat) (hshape : sequenceShape? b.toNat = some (low, high, more))
    (hlow : low ≤ second.toNat) (hhigh : second.toNat ≤ high) :
    firstChar b (second :: rest) =
      ((continuation more (leadingBits b.toNat * 64 + second.toNat % 64) rest).2.map Char.ofNat,
        (continuation more (leadingBits b.toNat * 64 + second.toNat % 64) rest).1 + 1) := by
  rw [firstChar.eq_def]
  simp only [hshape]
  rw [if_neg (by omega), if_pos (by simp only [Bool.and_eq_true, decide_eq_true_eq]; omega)]

theorem continuation_cons {b : UInt8} (hlow : 0x80 ≤ b.toNat) (hhigh : b.toNat ≤ 0xbf)
    (count value : Nat) (rest : List UInt8) :
    continuation (count + 1) value (b :: rest) =
      ((continuation count (value * 64 + b.toNat % 64) rest).1 + 1,
        (continuation count (value * 64 + b.toNat % 64) rest).2) := by
  rw [continuation, if_pos (by simp only [Bool.and_eq_true, decide_eq_true_eq]; omega)]

section

variable {v : Nat} (rest : List UInt8)

theorem firstChar_one (h : v ≤ 0x7f) : firstChar (.ofNat v) rest = (some (.ofNat v), 0) := by
  have hb := UInt8.toNat_ofNat_of_lt' (show v < 256 by omega)
  rw [firstChar.eq_def]
  simp only [hb]
  rw [if_pos (by omega)]

theorem firstChar_two (h : 0x7f < v) (h' : v ≤ 0x7ff) :
    firstChar (.ofNat (v / 64 % 32 + 192)) (.ofNat (v % 64 + 128) :: rest) = (some (.ofNat v), 1) := by
  have hb := UInt8.toNat_ofNat_of_lt' (show v / 64 % 32 + 192 < 256 by omega)
  have hlast := UInt8.toNat_ofNat_of_lt' (show v % 64 + 128 < 256 by omega)
  have hbits : leadingBits (v / 64 % 32 + 192) = v / 64 := by
    rw [leadingBits, if_pos (by omega)]
    omega
  have hvalue : v / 64 * 64 + (v % 64 + 128) % 64 = v := by omega
  rw [firstChar_sequence (by omega) (by rw [hb]; exact sequenceShape?_two (by omega) h') (by omega)
    (by omega), hb, hlast, hbits, hvalue]
  simp only [continuation, Option.map_some]

theorem firstChar_three (h : 0x7ff < v) (h' : v ≤ 0xffff) (hs : v < 0xd800 ∨ 0xdfff < v) :
    firstChar (.ofNat (v / 4096 % 16 + 224))
      (.ofNat (v / 64 % 64 + 128) :: .ofNat (v % 64 + 128) :: rest) = (some (.ofNat v), 2) := by
  obtain ⟨low, high, hshape, hlow, hhigh⟩ := sequenceShape?_three h h' hs
  have hb := UInt8.toNat_ofNat_of_lt' (show v / 4096 % 16 + 224 < 256 by omega)
  have hsecond := UInt8.toNat_ofNat_of_lt' (show v / 64 % 64 + 128 < 256 by omega)
  have hlast := UInt8.toNat_ofNat_of_lt' (show v % 64 + 128 < 256 by omega)
  have hbits : leadingBits (v / 4096 % 16 + 224) = v / 4096 := by
    rw [leadingBits, if_neg (by omega), if_pos (by omega)]
    omega
  have hvalue : (v / 4096 * 64 + (v / 64 % 64 + 128) % 64) * 64 + (v % 64 + 128) % 64 = v := by
    omega
  rw [firstChar_sequence (by omega) (by rw [hb]; exact hshape) (by omega) (by omega), hb, hsecond,
    hbits, continuation_cons (by omega) (by omega), hlast, hvalue]
  simp only [continuation, Option.map_some]

theorem firstChar_four (h : 0xffff < v) (h' : v < 0x110000) :
    firstChar (.ofNat (v / 262144 % 8 + 240))
      (.ofNat (v / 4096 % 64 + 128) :: .ofNat (v / 64 % 64 + 128) :: .ofNat (v % 64 + 128) :: rest) =
      (some (.ofNat v), 3) := by
  obtain ⟨low, high, hshape, hlow, hhigh⟩ := sequenceShape?_four h h'
  have hb := UInt8.toNat_ofNat_of_lt' (show v / 262144 % 8 + 240 < 256 by omega)
  have hsecond := UInt8.toNat_ofNat_of_lt' (show v / 4096 % 64 + 128 < 256 by omega)
  have hthird := UInt8.toNat_ofNat_of_lt' (show v / 64 % 64 + 128 < 256 by omega)
  have hlast := UInt8.toNat_ofNat_of_lt' (show v % 64 + 128 < 256 by omega)
  have hbits : leadingBits (v / 262144 % 8 + 240) = v / 262144 := by
    rw [leadingBits, if_neg (by omega), if_neg (by omega)]
    omega
  have hvalue : ((v / 262144 * 64 + (v / 4096 % 64 + 128) % 64) * 64 + (v / 64 % 64 + 128) % 64) * 64 +
      (v % 64 + 128) % 64 = v := by omega
  rw [firstChar_sequence (by omega) (by rw [hb]; exact hshape) (by omega) (by omega), hb, hsecond,
    hbits, continuation_cons (by omega) (by omega), hthird, continuation_cons (by omega) (by omega),
    hlast, hvalue]
  simp only [continuation, Option.map_some]

end

theorem firstChar_encode (c : Char) (rest : List UInt8) :
    ∃ b more, String.utf8EncodeChar c = b :: more ∧
      firstChar b (more ++ rest) = (some c, more.length) := by
  have hvalid := toNat_valid c
  have hself : Char.ofNat c.toNat = c := Char.ofNat_toNat c
  have hval : c.val.toNat = c.toNat := rfl
  simp only [String.utf8EncodeChar, hval]
  generalize c.toNat = v at *
  subst hself
  by_cases h1 : v ≤ 0x7f
  · refine ⟨_, [], by rw [if_pos h1], ?_⟩
    exact firstChar_one rest h1
  by_cases h2 : v ≤ 0x7ff
  · refine ⟨_, _, by rw [if_neg h1, if_pos h2], ?_⟩
    exact firstChar_two rest (by omega) h2
  by_cases h3 : v ≤ 0xffff
  · refine ⟨_, _, by rw [if_neg h1, if_neg h2, if_pos h3], ?_⟩
    exact firstChar_three rest (by omega) h3 (by omega)
  · refine ⟨_, _, by rw [if_neg h1, if_neg h2, if_neg h3], ?_⟩
    exact firstChar_four rest (by omega) (by omega)

theorem decodeFrom_encode (cs : List Char) (fuel : Nat)
    (h : (cs.flatMap String.utf8EncodeChar).length ≤ fuel) :
    decodeFrom fuel (cs.flatMap String.utf8EncodeChar) = cs.map some := by
  induction cs generalizing fuel with
  | nil => cases fuel <;> rfl
  | cons c cs ih =>
    obtain ⟨b, more, hencode, hfirst⟩ := firstChar_encode c (cs.flatMap String.utf8EncodeChar)
    rw [List.flatMap_cons, hencode, List.cons_append] at h ⊢
    rw [List.length_cons, List.length_append] at h
    cases fuel with
    | zero => omega
    | succ fuel =>
      rw [decodeFrom, hfirst]
      simp only [List.drop_left, List.map_cons]
      rw [ih fuel (by omega)]

theorem toList_loop (bytes : ByteArray) (i : Nat) (r : List UInt8) :
    ByteArray.toList.loop bytes i r = r.reverse ++ bytes.data.toList.drop i := by
  fun_induction ByteArray.toList.loop bytes i r with
  | case1 i r h ih =>
    have hi : i < bytes.data.toList.length := h
    rw [ih, List.drop_eq_getElem_cons hi]
    simp [ByteArray.get!, h]
  | case2 i r h =>
    rw [List.drop_eq_nil_of_le (Nat.le_of_not_lt h), List.append_nil]

theorem toList_toByteArray (bytes : List UInt8) : bytes.toByteArray.toList = bytes := by
  rw [ByteArray.toList, toList_loop, List.toList_data_toByteArray]
  rfl

theorem utf8Bytes_eq (s : String) : utf8Bytes s = s.toList.flatMap String.utf8EncodeChar := by
  have hbytes : s.toByteArray = (s.toList.flatMap String.utf8EncodeChar).toByteArray :=
    String.utf8Encode_toList.symm
  rw [utf8Bytes, String.toUTF8, hbytes]
  exact toList_toByteArray _

theorem utf8Text?_utf8Bytes (s : String) : utf8Text? (utf8Bytes s) = some s := by
  have hpieces : decodePieces (utf8Bytes s) = s.toList.map some := by
    rw [decodePieces, utf8Bytes_eq]
    exact decodeFrom_encode s.toList _ (Nat.le_refl _)
  have hall : (s.toList.map some).all Option.isSome = true := by simp
  have hself : (s.toList.map some).filterMap id = s.toList := by simp
  rw [utf8Text?, hpieces]
  rw [if_pos hall, hself, String.ofList_toList]

end Folio.Text
