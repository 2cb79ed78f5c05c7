import Folio.Json.Basic
/-!
The value of a number in JSON text. An integer that fits in 64 bits is exact. Any other number is
read as its leading digits, as many as fit in 64 bits, rounded and then multiplied or divided by a
rounded power of ten.
-/
set_option autoImplicit false

namespace Folio.Json

structure Literal where
  negative : Bool
  whole : List Char
  fraction : Option (List Char)
  exponent : Option (Bool × List Char)
  deriving Repr, DecidableEq

/-- Appends digits to a number while it stays below `bound`; returns the digits left over. -/
def appendDigits (bound : Nat) (n : Nat) : List Char → Nat × List Char
  | [] => (n, [])
  | c :: cs =>
    let next := 10 * n + Text.digitValue c
    if next < bound then appendDigits bound next cs else (n, c :: cs)

def largestPower : Nat := 308

def powerOfTen (k : Nat) : Double := .ofDecimal false 1 k

/-- Divides by powers of ten in steps; two full steps take every 64-bit number to zero. -/
def scaleDown : Nat → Double → Nat → Double
  | 0, x, k => x.div (powerOfTen k)
  | steps + 1, x, k =>
    if k ≤ largestPower then x.div (powerOfTen k)
    else if x.isZero then x
    else scaleDown steps (x.div (powerOfTen largestPower)) (k - largestPower)

def scaled? (n : Nat) (e : Int) : Option Double :=
  let x : Double := .ofNat n
  if 0 ≤ e then
    if e ≤ largestPower then
      let y := x.mul (powerOfTen e.toNat)
      if y.isInfinite then none else some y
    else if x.isZero then some x else none
  else
    let k := (-e).toNat
    some (if x.isZero then x else scaleDown 3 x k)

def exponentBound : Nat := Nat.pow 2 31

def Literal.float? (l : Literal) : Option Double :=
  let (n, beyond) := appendDigits naturalBound 0 l.whole
  let digits := l.fraction.getD []
  let (n, ignored) := appendDigits naturalBound n digits
  let places : Int := beyond.length - (digits.length - ignored.length : Nat)
  let value := match l.exponent with
    | none => scaled? n places
    | some (down, ds) =>
      match appendDigits exponentBound 0 ds with
      | (e, []) => scaled? n (if down then places - e else places + e)
      | _ => if n != 0 && !down then none else some (.zero false)
  value.map fun x => if l.negative then x.negate else x

def Literal.value? (l : Literal) : Option Number :=
  match l.fraction, l.exponent, appendDigits naturalBound 0 l.whole with
  | none, none, (n, []) =>
    if !l.negative then some (.natural n)
    else if n == 0 || Nat.pow 2 63 < n then some (.double (.negate (.ofNat n)))
    else some (.negative n)
  | _, _, _ => l.float?.map .double

end Folio.Json
