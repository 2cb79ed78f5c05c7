import Folio.Number.Binary
import Folio.Text.Decimal

set_option autoImplicit false

namespace Folio

structure Scientific where
  digits : Nat
  exponent : Int
  deriving Repr, DecidableEq

def overPowerOfTen (num den : Nat) (k : Int) : Nat × Nat :=
  if 0 ≤ k then (num, den * Nat.pow 10 k.toNat) else (num * Nat.pow 10 (-k).toNat, den)

namespace Binary

variable {f : FloatFormat}

/-- Four times a positive number, and four times the ends of the interval of what rounds to it, in
units of the last place of the number. -/
def bounds (x : Binary f) : Nat × Nat × Nat :=
  let m := x.significand
  let narrow := m == Nat.pow 2 f.fractionBits && f.minExponent < x.exponent
  (4 * m - (if narrow then 1 else 2), 4 * m, 4 * m + 2)

def readsBack (x : Binary f) (n : Nat) (k : Int) : Bool :=
  let (low, _, high) := x.bounds
  let (a, b) := overPower 1 1 (x.exponent - 2)
  let (c, d) := overPowerOfTen 1 1 k
  -- `n · 10 ^ k` is `n * d / c`, a bound `e` stands for `e * b / a`
  let here := n * d * a
  let at_ (e : Nat) := e * b * c
  if x.significand % 2 == 0 then at_ low ≤ here && here ≤ at_ high
  else at_ low < here && here < at_ high

/-- The multiple of a power of ten nearest to `x` that reads back as `x`, if one does. -/
def onGrid (x : Binary f) (k : Int) : Option Nat :=
  let (num, den) := x.ratio
  let (a, b) := overPowerOfTen num den k
  let below := a / b
  let nearest := roundQuotient a b
  let other := if nearest == below then below + 1 else below
  if nearest != 0 && x.readsBack nearest k then some nearest
  else if other != 0 && x.readsBack other k then some other
  else none

def shortestFrom (x : Binary f) : Nat → Int → Scientific
  | 0, k => ⟨0, k⟩
  | fuel + 1, k =>
    match x.onGrid k with
    | some n => ⟨n, k⟩
    | none => shortestFrom x fuel (k - 1)

def shortest (x : Binary f) : Scientific :=
  let top : Int := (Nat.log2 x.significand : Int) + x.exponent
  -- the decimal logarithm, at most one too large
  shortestFrom x (f.fractionBits + 3) (top * 30103 / 100000 + 1)

end Binary

/-- How the digits of a number are laid out: positional from ten to `low` and below ten to `high`,
and with an exponent elsewhere. -/
structure FloatLayout where
  low : Option Int
  high : Option Int

def FloatLayout.isPositional (l : FloatLayout) (e : Int) : Bool :=
  (match l.low with
    | none => true
    | some low => low ≤ e) &&
  match l.high with
    | none => true
    | some high => e < high

def Scientific.positional (s : Scientific) : List Char :=
  let ds := Text.decimal s.digits
  if 0 ≤ s.exponent then ds ++ List.replicate s.exponent.toNat '0' ++ ['.', '0']
  else
    let places := (-s.exponent).toNat
    if places < ds.length then
      ds.take (ds.length - places) ++ '.' :: ds.drop (ds.length - places)
    else ['0', '.'] ++ List.replicate (places - ds.length) '0' ++ ds

def Scientific.leading (s : Scientific) : Int := s.exponent + (Text.decimal s.digits).length - 1

def Scientific.withExponent (s : Scientific) : List Char :=
  let e := s.leading
  let power := 'e' :: (if e < 0 then '-' else '+') :: Text.decimal e.natAbs
  match Text.decimal s.digits with
  | d :: rest@(_ :: _) => d :: '.' :: (rest ++ power)
  | ds => ds ++ power

def Binary.write {f : FloatFormat} (l : FloatLayout) (x : Binary f) : List Char :=
  let body :=
    if x.isZero then ['0', '.', '0']
    else
      let s := x.shortest
      if l.isPositional s.leading then s.positional else s.withExponent
  if x.negative then '-' :: body else body

end Folio
