set_option autoImplicit false

namespace Folio.Text

def bytes : List Char → Nat
  | [] => 0
  | c :: cs => c.utf8Size + bytes cs

/-- Cuts a text behind that many bytes, unless that is inside a character or behind the text. -/
def splitBytes? : List Char → Nat → Option (List Char × List Char)
  | cs, 0 => some ([], cs)
  | [], _ + 1 => none
  | c :: cs, n + 1 =>
    if c.utf8Size ≤ n + 1 then
      (splitBytes? cs (n + 1 - c.utf8Size)).map fun (left, right) => (c :: left, right)
    else none

def slice? (cs : List Char) (start stop : Nat) : Option (List Char) :=
  if stop < start then none
  else (splitBytes? cs start).bind fun (_, rest) =>
    (splitBytes? rest (stop - start)).map fun (inside, _) => inside

end Folio.Text
