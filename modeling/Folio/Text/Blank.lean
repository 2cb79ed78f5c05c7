set_option autoImplicit false

namespace Folio.Text

def inRanges (ranges : Array (Nat × Nat)) (n : Nat) : Bool :=
  ranges.any fun (low, high) => low ≤ n && n ≤ high

def blankRanges : Array (Nat × Nat) := #[
  (0x85, 0x85), (0xa0, 0xa0), (0x1680, 0x1680), (0x2000, 0x200a), (0x2028, 0x2029),
  (0x202f, 0x202f), (0x205f, 0x205f), (0x3000, 0x3000)]

def isBlank (c : Char) : Bool :=
  let n := c.toNat
  if n < 0x80 then n == 32 || (9 ≤ n && n ≤ 13) else inRanges blankRanges n

def trimEndChars (cs : List Char) : List Char := (cs.reverse.dropWhile isBlank).reverse

def firstWord (cs : List Char) : Option (List Char) :=
  match (cs.dropWhile isBlank).takeWhile (!isBlank ·) with
  | [] => none
  | w => some w

end Folio.Text
