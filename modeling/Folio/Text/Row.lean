import Folio.Text.Decimal
import Folio.Text.Hex
import Folio.Text.Split
/-!
Tables of characters, written as text. A row such as `41-5a:61` gives a range in hexadecimal and, behind
a colon, what holds for it. In `100-12e/2:101` only every second character is meant.
-/
set_option autoImplicit false

namespace Folio.Text

structure Row where
  first : Nat
  last : Nat
  /-- The distance between the characters that are meant; 0 means 1. -/
  step : Nat
  entry : List Char
  deriving Repr, DecidableEq

def Row.contains (r : Row) (n : Nat) : Bool :=
  r.first ≤ n && n ≤ r.last && (r.step ≤ 1 || (n - r.first) % r.step == 0)

def rangeOf (range entry : List Char) : Row :=
  match splitOn (· == '-') range with
  | [first, rest] =>
    match splitOn (· == '/') rest with
    | [last, step] => ⟨hexNumber first, hexNumber last, hexNumber step, entry⟩
    | _ => ⟨hexNumber first, hexNumber rest, 1, entry⟩
  | _ => ⟨hexNumber range, hexNumber range, 1, entry⟩

def rowOf (cs : List Char) : Row :=
  match splitOn (· == ':') cs with
  | [range, entry] => rangeOf range entry
  | _ => rangeOf cs []

def rowsOf (text : String) : Array Row := ((words text).map rowOf).toArray

def findRow? (rows : Array Row) (n : Nat) : Option Row := rows.find? (·.contains n)

def Row.characters (r : Row) : List Nat := (splitOn (· == '+') r.entry).map hexNumber

/-- What a character of the row becomes. A single image moves along with the character, unless the step
is 0. -/
def Row.image (r : Row) (n : Nat) : List Nat :=
  match r.characters with
  | [c] => [if r.step == 0 then c else c + (n - r.first)]
  | cs => cs

end Folio.Text
