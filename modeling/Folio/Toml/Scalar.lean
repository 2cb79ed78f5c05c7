import Folio.Toml.Basic
import Folio.Text.Decimal
import Folio.Text.Hex

set_option autoImplicit false

namespace Folio.Toml

def digitGroups? (isDigit : Char → Bool) : List Char → Option (List Char)
  | [] => none
  | [c] => if isDigit c then some [c] else none
  | c :: '_' :: cs => if isDigit c then (digitGroups? isDigit cs).map (c :: ·) else none
  | c :: cs => if isDigit c then (digitGroups? isDigit cs).map (c :: ·) else none

def decimalGroups? : List Char → Option (List Char) := digitGroups? Text.isDigit

def sign : List Char → Bool × List Char
  | '-' :: cs => (true, cs)
  | '+' :: cs => (false, cs)
  | cs => (false, cs)

def wholeDigits? (cs : List Char) : Option (List Char) :=
  match decimalGroups? cs with
  | some ('0' :: _ :: _) => none
  | ds => ds

def isBaseDigit (base : Nat) (c : Char) : Bool :=
  match Text.nibble? c with
  | some d => d < base
  | none => false

def baseValue? (base : Nat) (cs : List Char) : Option Nat :=
  (digitGroups? (isBaseDigit base) cs).map fun ds =>
    ds.foldl (fun n c => base * n + (Text.nibble? c).getD 0) 0

def integerBound (negative : Bool) : Nat := if negative then Nat.pow 2 63 else Nat.pow 2 63 - 1

def integer? (cs : List Char) : Option Int :=
  let bounded (negative : Bool) (n : Nat) : Option Int :=
    if n ≤ integerBound negative then some (if negative then -(n : Int) else n) else none
  match cs with
  | '0' :: 'x' :: ds => (baseValue? 16 ds).bind (bounded false)
  | '0' :: 'o' :: ds => (baseValue? 8 ds).bind (bounded false)
  | '0' :: 'b' :: ds => (baseValue? 2 ds).bind (bounded false)
  | _ =>
    let (negative, ds) := sign cs
    (wholeDigits? ds).bind fun ds => bounded negative (Text.valueOfDigits ds)

def exponent? (cs : List Char) : Option Int :=
  match cs with
  | [] => some 0
  | c :: rest =>
    if c == 'e' || c == 'E' then
      let (negative, ds) := sign rest
      (decimalGroups? ds).map fun ds =>
        if negative then -(Text.valueOfDigits ds : Int) else Text.valueOfDigits ds
    else none

def isExponentMark (c : Char) : Bool := c == 'e' || c == 'E'

/-- Beyond these powers of ten a number of so many digits is zero or too large, whatever they are. -/
def clampExponent (digits : Nat) (e : Int) : Int :=
  max (-(digits : Int) - 400) (min (digits + 400) e)

/-- A number with a fraction or an exponent. A positive one must not be too large. -/
def decimalFloat? (cs : List Char) : Option Double := do
  let (negative, cs) := sign cs
  let mantissa := cs.takeWhile (!isExponentMark ·)
  let rest := cs.dropWhile (!isExponentMark ·)
  let whole := mantissa.takeWhile (· != '.')
  let fraction := mantissa.dropWhile (· != '.')
  if fraction.isEmpty && rest.isEmpty then none
  else
    let ds ← wholeDigits? whole
    let fs ← if fraction.isEmpty then some [] else decimalGroups? (fraction.drop 1)
    let e ← exponent? rest
    let digits := ds ++ fs
    let x : Double := .ofDecimal negative (Text.valueOfDigits digits)
      (clampExponent digits.length e - fs.length)
    if x.isInfinite && !negative then none else some x

def specialFloat? (cs : List Char) : Option Double :=
  let (negative, name) := sign cs
  if name == ['i', 'n', 'f'] then some (.infinite negative)
  else if name == ['n', 'a', 'n'] then some .nan
  else none

def float? (cs : List Char) : Option Double := (decimalFloat? cs).or (specialFloat? cs)

def twoDigits? (most : Nat) : List Char → Option (List Char)
  | a :: b :: cs =>
    if Text.isDigit a && Text.isDigit b && Text.valueOfDigits [a, b] ≤ most then some cs else none
  | _ => none

def isLeapYear (y : Nat) : Bool := (y % 4 == 0 && y % 100 != 0) || y % 400 == 0

def daysInMonth (year month : Nat) : Nat :=
  if month == 2 then (if isLeapYear year then 29 else 28)
  else if [4, 6, 9, 11].contains month then 30
  else 31

def afterDate? : List Char → Option (List Char)
  | y1 :: y2 :: y3 :: y4 :: '-' :: m1 :: m2 :: '-' :: d1 :: d2 :: cs =>
    let month := Text.valueOfDigits [m1, m2]
    let day := Text.valueOfDigits [d1, d2]
    if [y1, y2, y3, y4, m1, m2, d1, d2].all Text.isDigit && 1 ≤ month && month ≤ 12 && 1 ≤ day &&
        day ≤ daysInMonth (Text.valueOfDigits [y1, y2, y3, y4]) month then some cs
    else none
  | _ => none

def afterColon? : List Char → Option (List Char)
  | ':' :: cs => some cs
  | _ => none

/-- What follows a time of day; a second may be a leap second and have a fraction. -/
def afterTime? (cs : List Char) : Option (List Char) := do
  let cs ← (twoDigits? 23 cs).bind afterColon?
  let cs ← (twoDigits? 59 cs).bind afterColon?
  match ← twoDigits? 60 cs with
  | '.' :: c :: rest => if Text.isDigit c then some (rest.dropWhile Text.isDigit) else none
  | '.' :: [] => none
  | rest => some rest

def afterOffset? : List Char → Option (List Char)
  | 'Z' :: cs | 'z' :: cs => some cs
  | '+' :: cs | '-' :: cs => ((twoDigits? 23 cs).bind afterColon?).bind (twoDigits? 59)
  | cs => some cs

def isMoment (cs : List Char) : Bool :=
  let done (rest : Option (List Char)) : Bool := rest == some []
  match afterDate? cs with
  | some [] => true
  | some (c :: rest) => [' ', 'T', 't'].contains c && done ((afterTime? rest).bind afterOffset?)
  | none => done (afterTime? cs)

def scalar? (cs : List Char) : Option Toml :=
  if isMoment cs then some .moment
  else match float? cs with
    | some x => some (.float x)
    | none => (integer? cs).map .integer

end Folio.Toml
