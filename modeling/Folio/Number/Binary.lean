/-!
Binary floating-point numbers, with exact arithmetic. The magnitude of a number is its position among
the non-negative numbers of its format: 0 is zero, each successor the next larger number, and past
the largest finite number come infinity and what is not a number.
-/
set_option autoImplicit false

namespace Folio

structure FloatFormat where
  fractionBits : Nat
  exponentBits : Nat
  deriving Repr, DecidableEq

namespace FloatFormat

def single : FloatFormat := ⟨23, 8⟩
def double : FloatFormat := ⟨52, 11⟩

def minExponent (f : FloatFormat) : Int := 2 - (Nat.pow 2 (f.exponentBits - 1) : Nat) - f.fractionBits

def infinity (f : FloatFormat) : Nat := (Nat.pow 2 f.exponentBits - 1) * Nat.pow 2 f.fractionBits

end FloatFormat

structure Binary (f : FloatFormat) where
  negative : Bool
  magnitude : Nat
  deriving Repr, DecidableEq

abbrev Single := Binary .single
abbrev Double := Binary .double

/-- The quotient of two numbers, rounded; a half goes to the even neighbour. -/
def roundQuotient (num den : Nat) : Nat :=
  let q := num / den
  let twice := 2 * (num % den)
  if twice < den then q else if den < twice then q + 1 else q + q % 2

def overPower (num den : Nat) (q : Int) : Nat × Nat :=
  if 0 ≤ q then (num, den * Nat.pow 2 q.toNat) else (num * Nat.pow 2 (-q).toNat, den)

namespace Binary

variable {f : FloatFormat}

def zero (negative : Bool) : Binary f := ⟨negative, 0⟩
def infinite (negative : Bool) : Binary f := ⟨negative, f.infinity⟩
def nan : Binary f := ⟨false, f.infinity + 1⟩

def isFinite (x : Binary f) : Bool := x.magnitude < f.infinity
def isInfinite (x : Binary f) : Bool := x.magnitude == f.infinity
def isNan (x : Binary f) : Bool := f.infinity < x.magnitude
def isZero (x : Binary f) : Bool := x.magnitude == 0

def negate (x : Binary f) : Binary f := { x with negative := !x.negative }

/-- A finite number is its `significand` times two to its `exponent`. -/
def significand (x : Binary f) : Nat :=
  if x.magnitude < Nat.pow 2 f.fractionBits then x.magnitude
  else Nat.pow 2 f.fractionBits + x.magnitude % Nat.pow 2 f.fractionBits

def exponent (x : Binary f) : Int :=
  f.minExponent + (x.magnitude / Nat.pow 2 f.fractionBits - 1 : Nat)

def ratio (x : Binary f) : Nat × Nat :=
  let (den, num) := overPower 1 1 x.exponent
  (x.significand * num, den)

/-- The exponent of two that leaves a quotient as many significant bits as the format has. -/
def fittingExponent (f : FloatFormat) (num den : Nat) : Int :=
  let guess : Int := (Nat.log2 num : Int) - Nat.log2 den
  let (n, d) := overPower num den guess
  let top := if n < d then guess - 1 else guess
  max f.minExponent (top - f.fractionBits)

def ofRatio (negative : Bool) (num den : Nat) : Binary f :=
  if num == 0 || den == 0 then zero negative
  else
    let q := fittingExponent f num den
    let (n, d) := overPower num den q
    let magnitude := (q - f.minExponent).toNat * Nat.pow 2 f.fractionBits + roundQuotient n d
    ⟨negative, min magnitude f.infinity⟩

def ofNat (n : Nat) : Binary f := ofRatio false n 1

def ofDecimal (negative : Bool) (digits : Nat) (exponent : Int) : Binary f :=
  if 0 ≤ exponent then ofRatio negative (digits * Nat.pow 10 exponent.toNat) 1
  else ofRatio negative digits (Nat.pow 10 (-exponent).toNat)

def convert {g : FloatFormat} (x : Binary f) : Binary g :=
  if x.isNan then ⟨x.negative, g.infinity + 1⟩
  else if x.isInfinite then infinite x.negative
  else let (num, den) := x.ratio; ofRatio x.negative num den

def mul (x y : Binary f) : Binary f :=
  let (a, b) := x.ratio
  let (c, d) := y.ratio
  ofRatio (x.negative != y.negative) (a * c) (b * d)

def div (x y : Binary f) : Binary f :=
  let (a, b) := x.ratio
  let (c, d) := y.ratio
  ofRatio (x.negative != y.negative) (a * d) (b * c)

end Binary

end Folio
