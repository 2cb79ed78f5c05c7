import Folio.Text.Canonical

set_option autoImplicit false

namespace Folio.Text

/-- The syllables of Hangul are composed by arithmetic: a leading consonant, a vowel and perhaps a
trailing consonant. -/
def isHangul (c : Nat) : Bool := 0xac00 ≤ c && c ≤ 0xd7a3

def decomposeHangul (c : Nat) : List Nat :=
  let s := c - 0xac00
  [0x1100 + s / 588, 0x1161 + s % 588 / 28] ++ if s % 28 == 0 then [] else [0x11a7 + s % 28]

def composeHangul? (a b : Nat) : Option Nat :=
  if 0x1100 ≤ a && a < 0x1113 && 0x1161 ≤ b && b < 0x1176 then
    some (0xac00 + ((a - 0x1100) * 21 + (b - 0x1161)) * 28)
  else if isHangul a && (a - 0xac00) % 28 == 0 && 0x11a7 < b && b < 0x11c3 then
    some (a + (b - 0x11a7))
  else none

def decomposeFrom : Nat → Nat → List Nat
  | 0, c => [c]
  | levels + 1, c =>
    if isHangul c then decomposeHangul c
    else match findRow? decompositions c with
      | some r => (r.image c).flatMap (decomposeFrom levels)
      | none => [c]

def decompose (c : Nat) : List Nat := if c < 0xc0 then [c] else decomposeFrom 3 c

/-- Puts a mark behind the marks whose class is not higher, in a text from its end to its start. -/
def placeMark (c : Nat) : List Nat → List Nat
  | [] => [c]
  | d :: rest =>
    if combiningClass c < combiningClass d then d :: placeMark c rest else c :: d :: rest

def placeNext (done : List Nat) (c : Nat) : List Nat :=
  if combiningClass c == 0 then c :: done else placeMark c done

def orderMarks (cs : List Nat) : List Nat := (cs.foldl placeNext []).reverse

def composePair? (a b : Nat) : Option Nat :=
  match composeHangul? a b with
  | some c => some c
  | none =>
    (decompositions.find? fun r => r.characters == [a, b] && !(excludedCompositions.any (·.contains r.first))).map
      (·.first)

/-- A text that is being put together: what is done, from its end, the last character that marks
attach to, and the marks behind it that could not be attached, from the last one. -/
structure Composition where
  done : List Nat
  starter : Option Nat
  marks : List Nat

namespace Composition

def empty : Composition := ⟨[], none, []⟩

def finish (s : Composition) : List Nat := s.marks ++ s.starter.toList ++ s.done

/-- A character attaches unless a mark of the same or a higher class lies between. -/
def add (s : Composition) (c : Nat) : Composition :=
  let class' := combiningClass c
  let free := match s.marks with
    | [] => true
    | m :: _ => combiningClass m < class'
  match if free then s.starter.bind (composePair? · c) else none with
  | some composed => { s with starter := some composed }
  | none => if class' == 0 then ⟨s.finish, some c, []⟩ else { s with marks := c :: s.marks }

end Composition

def composedForm (cs : List Nat) : List Nat :=
  ((orderMarks (cs.flatMap decompose)).foldl Composition.add .empty).finish.reverse

end Folio.Text
