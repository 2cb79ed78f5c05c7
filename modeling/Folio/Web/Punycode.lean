import Folio.Text.Decimal
/-!
Labels of any characters, written with ASCII letters, digits and hyphens. The ASCII characters come first;
then, in the order of their codes, each other character is described by how far its code and its place
have moved on from those of the last one.
-/
set_option autoImplicit false

namespace Folio.Web.Punycode

def digit (d : Nat) : Char := if d < 26 then Char.ofNat (97 + d) else Char.ofNat (22 + d)

def digitValue? (c : Char) : Option Nat :=
  if 'a' ≤ c && c ≤ 'z' then some (c.toNat - 97)
  else if 'A' ≤ c && c ≤ 'Z' then some (c.toNat - 65)
  else if Text.isDigit c then some (c.toNat - 22)
  else none

/-- The last digit of a number lies below its threshold. `place` is 36 for the first digit and grows by
36. -/
def threshold (bias place : Nat) : Nat := max 1 (min 26 (place - bias))

def scaled (delta count : Nat) : Nat :=
  if h : 455 < delta then scaled (delta / 35) (count + 36)
  else count + 36 * delta / (delta + 38)
termination_by delta
decreasing_by omega

def adapt (delta length : Nat) (first : Bool) : Nat :=
  let delta := if first then delta / 700 else delta / 2
  scaled (delta + delta / length) 0

def writeNumber (bias place n : Nat) : List Char :=
  let t := threshold bias place
  if h : n < t then [digit n]
  else
    have : (n - t) / (36 - t) < n := by
      have h1 : 1 ≤ t := Nat.le_max_left ..
      have h2 : (n - t) / (36 - t) ≤ n - t := Nat.div_le_self ..
      omega
    digit (t + (n - t) % (36 - t)) :: writeNumber bias (place + 36) ((n - t) / (36 - t))
termination_by n

/-- Where both sides are: the last code, the place behind the last character, how many characters are
placed, and the bias. -/
structure Progress where
  code : Nat
  place : Nat
  length : Nat
  bias : Nat
  first : Bool
  deriving Repr, DecidableEq

def Progress.start (basic : Nat) : Progress := ⟨128, 0, basic, 72, true⟩

def Progress.next (p : Progress) (delta code place : Nat) : Progress :=
  ⟨code, place + 1, p.length + 1, adapt delta (p.length + 1) p.first, false⟩

def isBasic (c : Char) : Bool := c.toNat < 128

/-- The characters to be described, in order: code, and place among those that are there by then. -/
def insertions (cs : List Char) : List (Nat × Nat) :=
  let placed := cs.zipIdx
  let sorted := (placed.filter fun (c, _) => !isBasic c).mergeSort fun (c, i) (d, j) =>
    c < d || (c == d && i ≤ j)
  sorted.map fun (c, i) => (c.toNat, placed.countP fun (d, j) => j < i && d ≤ c)

def writeInsertions (p : Progress) : List (Nat × Nat) → List Char
  | [] => []
  | (code, place) :: rest =>
    let delta := (code - p.code) * (p.length + 1) + place - p.place
    writeNumber p.bias 36 delta ++ writeInsertions (p.next delta code place) rest

def encode (cs : List Char) : List Char :=
  let basic := cs.filter isBasic
  basic ++ (if basic.isEmpty then [] else ['-']) ++
    writeInsertions (.start basic.length) (insertions cs)

structure Partial where
  value : Nat
  weight : Nat
  place : Nat

def Partial.start : Partial := ⟨0, 1, 36⟩

def isCode (n : Nat) : Bool := n < 0xd800 || (0xdfff < n && n < 0x110000)

def readInsertions (p : Progress) (n : Partial) (out : List Char) : List Char → Option (List Char)
  | [] => if n.place == 36 then some out else none
  | c :: cs =>
    match digitValue? c with
    | none => none
    | some d =>
      let t := threshold p.bias n.place
      let value := n.value + d * n.weight
      if d < t then
        let moved := p.place + value
        let code := p.code + moved / (p.length + 1)
        let place := moved % (p.length + 1)
        if isCode code then
          readInsertions (p.next value code place) .start (out.insertIdx place (Char.ofNat code)) cs
        else none
      else readInsertions p ⟨value, n.weight * (36 - t), n.place + 36⟩ out cs

def atLastHyphen (cs : List Char) : List Char × List Char :=
  match cs.reverse.span (· != '-') with
  | (after, _ :: before) => (before.reverse, after.reverse)
  | (_, []) => ([], cs)

/-- A text that starts with its only hyphen describes nothing. -/
def decode? (cs : List Char) : Option (List Char) :=
  let (basic, numbers) := atLastHyphen cs
  if !basic.all isBasic || (basic.isEmpty && cs.head? == some '-') then none
  else readInsertions (.start basic.length) .start basic numbers

end Folio.Web.Punycode
