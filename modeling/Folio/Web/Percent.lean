import Folio.Text.Utf8
import Folio.Text.Hex

set_option autoImplicit false

namespace Folio.Web

def inControlSet (c : Char) : Bool := c.toNat < 32 || 126 < c.toNat

def inFragmentSet (c : Char) : Bool :=
  inControlSet c || [' ', '"', '<', '>', '\x60'].contains c

def inPathSet (c : Char) : Bool := inFragmentSet c || ['#', '?', '\x7b', '\x7d'].contains c

def inUserSet (c : Char) : Bool :=
  inPathSet c || ['/', ':', ';', '=', '@', '[', '\\', ']', '^', '|'].contains c

def inQuerySet (c : Char) : Bool := inControlSet c || [' ', '"', '#', '<', '>'].contains c

def inSpecialQuerySet (c : Char) : Bool := inQuerySet c || c == '\''

def percentByte (b : UInt8) : List Char := '%' :: (Text.hexOfByte b).map Char.toUpper

def percentEncode (set : Char → Bool) (cs : List Char) : List Char :=
  cs.flatMap fun c => if set c then (Text.utf8Bytes c.toString).flatMap percentByte else [c]

def percentDecode : List Char → List UInt8
  | '%' :: a :: b :: cs =>
    match Text.nibble? a, Text.nibble? b with
    | some x, some y => UInt8.ofNat (16 * x + y) :: percentDecode cs
    | _, _ => 0x25 :: percentDecode (a :: b :: cs)
  | c :: cs => Text.utf8Bytes c.toString ++ percentDecode cs
  | [] => []

end Folio.Web
