set_option autoImplicit false

namespace Folio.Text

def utf8Bytes (s : String) : List UInt8 := s.toUTF8.toList

def replacement : Char := '\uFFFD'

/-- The range of the second byte after a leading byte, and how many bytes follow that one. -/
def sequenceShape? (b : Nat) : Option (Nat × Nat × Nat) :=
  if 0xc2 ≤ b && b ≤ 0xdf then some (0x80, 0xbf, 0)
  else if b == 0xe0 then some (0xa0, 0xbf, 1)
  else if b == 0xed then some (0x80, 0x9f, 1)
  else if 0xe1 ≤ b && b ≤ 0xef then some (0x80, 0xbf, 1)
  else if b == 0xf0 then some (0x90, 0xbf, 2)
  else if 0xf1 ≤ b && b ≤ 0xf3 then some (0x80, 0xbf, 2)
  else if b == 0xf4 then some (0x80, 0x8f, 2)
  else none

def leadingBits (b : Nat) : Nat :=
  if b < 0xe0 then b % 0x20 else if b < 0xf0 then b % 0x10 else b % 8

/-- Reads `count` more continuation bytes; returns how many there were, and the value if all. -/
def continuation : Nat → Nat → List UInt8 → Nat × Option Nat
  | 0, value, _ => (0, some value)
  | count + 1, value, bytes =>
    match bytes with
    | b :: rest =>
      if 0x80 ≤ b.toNat && b.toNat ≤ 0xbf then
        let (n, v) := continuation count (value * 64 + b.toNat % 64) rest
        (n + 1, v)
      else (0, none)
    | [] => (0, none)

/-- The first character, or `none` for a malformed sequence, and the number of bytes that it takes
beyond the first. -/
def firstChar (b : UInt8) (rest : List UInt8) : Option Char × Nat :=
  let lead := b.toNat
  if lead < 0x80 then (some (Char.ofNat lead), 0)
  else match sequenceShape? lead, rest with
    | some (low, high, more), second :: rest =>
      if low ≤ second.toNat && second.toNat ≤ high then
        let (n, v) := continuation more (leadingBits lead * 64 + second.toNat % 64) rest
        (v.map Char.ofNat, n + 1)
      else (none, 0)
    | _, _ => (none, 0)

def decodeFrom : Nat → List UInt8 → List (Option Char)
  | 0, _ => []
  | _, [] => []
  | fuel + 1, b :: rest =>
    let (c, n) := firstChar b rest
    c :: decodeFrom fuel (rest.drop n)

def decodePieces (bytes : List UInt8) : List (Option Char) := decodeFrom bytes.length bytes

def utf8Text? (bytes : List UInt8) : Option String :=
  let cs := decodePieces bytes
  if cs.all Option.isSome then some (String.ofList (cs.filterMap id)) else none

def lossyText (bytes : List UInt8) : String :=
  String.ofList ((decodePieces bytes).map (·.getD replacement))

end Folio.Text
