set_option autoImplicit false

namespace Folio.Text

def hexDigit (n : Nat) : Char := if n < 10 then Char.ofNat (48 + n) else Char.ofNat (87 + n)

def hexOfByte (b : UInt8) : List Char := [hexDigit (b.toNat / 16), hexDigit (b.toNat % 16)]

def hexOfBytes (bytes : List UInt8) : List Char := bytes.flatMap hexOfByte

def hex (bytes : List UInt8) : String := String.ofList (hexOfBytes bytes)

def isHex (c : Char) : Bool := ('0' ≤ c && c ≤ '9') || ('a' ≤ c && c ≤ 'f')

theorem isHex_hexDigit {n : Nat} (h : n < 16) : isHex (hexDigit n) := by
  revert n; decide

theorem isHex_of_mem_hexOfBytes {bytes : List UInt8} {c : Char} (h : c ∈ hexOfBytes bytes) :
    isHex c := by
  simp only [hexOfBytes, List.mem_flatMap, hexOfByte, List.mem_cons, List.not_mem_nil,
    or_false] at h
  obtain ⟨b, _, rfl | rfl⟩ := h
  · exact isHex_hexDigit (by have := b.toNat_lt; omega)
  · exact isHex_hexDigit (by omega)

theorem hexOfBytes_length (bytes : List UInt8) : (hexOfBytes bytes).length = 2 * bytes.length := by
  induction bytes with
  | nil => rfl
  | cons b bs ih => simp_all [hexOfBytes, hexOfByte]; omega

def nibble? (c : Char) : Option Nat :=
  let n := c.toNat
  if 48 ≤ n && n ≤ 57 then some (n - 48)
  else if 97 ≤ n && n ≤ 102 then some (n - 87)
  else if 65 ≤ n && n ≤ 70 then some (n - 55)
  else none

def hexNumber (cs : List Char) : Nat :=
  cs.foldl (fun n c => 16 * n + (nibble? c).getD 0) 0

def bytesOfHex? : List Char → Option (List UInt8)
  | [] => some []
  | [_] => none
  | a :: b :: cs =>
    match nibble? a, nibble? b, bytesOfHex? cs with
    | some x, some y, some bytes => some (UInt8.ofNat (16 * x + y) :: bytes)
    | _, _, _ => none

end Folio.Text
