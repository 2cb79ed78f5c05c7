import Folio.Text.Direction
import Folio.Text.Joining
import Folio.Text.Mark
import Folio.Text.Normal
import Folio.Web.DomainMapping
import Folio.Web.Punycode
/-!
Domain names in their ASCII form. A name is first brought into its normal form and cut into labels; each
label must be sound, and labels that are written from right to left must not confuse the others.
-/
set_option autoImplicit false

namespace Folio.Web

open Text

def isForbiddenInDomain (c : Char) : Bool :=
  c.toNat ≤ 32 || c.toNat == 127 ||
    ['%', '#', '/', ':', '<', '>', '?', '@', '[', '\\', ']', '^', '|'].contains c

def normalDomain? (cs : List Char) : Option (List Char) :=
  (cs.mapM mapDomainChar?).map fun codes => (composedForm codes.flatten).map Char.ofNat

def firstJoining? (cs : List Char) : Option JoiningType :=
  (cs.find? fun c => joiningType? c != some .transparent).bind joiningType?

def nonJoiner : Char := '\u200c'

def joiner : Char := '\u200d'

def isVirama (c : Char) : Bool := combiningClass c.toNat == 9

/-- A joiner must follow a virama, or, if it keeps letters apart, stand between letters that would join.
`before` holds what precedes, from its end. -/
def joinersFit (before : List Char) : List Char → Bool
  | [] => true
  | c :: rest =>
    let fits :=
      if c == nonJoiner || c == joiner then
        (before.head?.any isVirama) || (c == nonJoiner &&
          [some .left, some .dual].contains (firstJoining? before) &&
          [some .right, some .dual].contains (firstJoining? rest))
      else true
    fits && joinersFit (c :: before) rest

def isAscii (cs : List Char) : Bool := cs.all Punycode.isBasic

def longestLabel : Nat := 1000

def longestEncodedLabel : Nat := 2000

def isSoundLabel (label : List Char) : Bool :=
  !(label.head?.any isMark) && joinersFit [] label &&
    (isAscii label || label.length ≤ longestLabel)

/-- What an encoded label stands for. It must need the encoding and be in normal form. -/
def decodeLabel? (label : List Char) : Option (List Char) :=
  if longestEncodedLabel < label.length || label.getLast? == some '-' then none
  else match Punycode.decode? label with
    | none => none
    | some cs => if !isAscii cs && normalDomain? cs == some cs then some cs else none

structure Label where
  text : List Char
  ascii : List Char
  deriving Repr, DecidableEq

def Label.of? (cs : List Char) : Option Label :=
  match cs with
  | 'x' :: 'n' :: '-' :: '-' :: encoded =>
    (decodeLabel? encoded).bind fun text => if isSoundLabel text then some ⟨text, cs⟩ else none
  | _ =>
    if !isSoundLabel cs then none
    else some ⟨cs, if isAscii cs then cs else ['x', 'n', '-', '-'] ++ Punycode.encode cs⟩

def isRightToLeft : Direction → Bool
  | .rightToLeft | .arabicLetter | .arabicNumber => true
  | _ => false

/-- In a label from left to right: it ends with a letter or number, and nothing in it goes the other
way. -/
def isLeftToRightLabel (directions : List Direction) : Bool :=
  (directions.reverse.find? (· != .mark)).any [Direction.leftToRight, .europeanNumber].contains &&
    directions.all [Direction.leftToRight, .europeanNumber, .weak, .mark].contains

def isRightToLeftLabel (directions : List Direction) : Bool :=
  (directions.reverse.find? (· != .mark)).any
      [Direction.rightToLeft, .arabicLetter, .europeanNumber, .arabicNumber].contains &&
    directions.all [Direction.rightToLeft, .arabicLetter, .arabicNumber, .europeanNumber, .weak,
      .mark].contains &&
    !(directions.contains .europeanNumber && directions.contains .arabicNumber)

def isDirected (label : List Char) : Bool :=
  let directions := label.map direction
  match directions.head? with
  | none => true
  | some .leftToRight => isLeftToRightLabel directions
  | some .rightToLeft | some .arabicLetter => isRightToLeftLabel directions
  | some _ => false

/-- If some label has characters from right to left, every label must keep to one direction. -/
def directionsFit (labels : List Label) : Bool :=
  !(labels.any (·.text.any (isRightToLeft ∘ direction))) || labels.all (isDirected ·.text)

/-- The names that consist of ASCII letters, digits, dots and inner hyphens need no further look, unless
they hold encoded labels. -/
def isPlainDomain (cs : List Char) : Bool :=
  isAscii cs && (splitOn (· == '.') cs).all fun label =>
    !(['x', 'n', '-', '-'].isPrefixOf (label.map Char.toLower))

def domainToAscii? (cs : List Char) : Option (List Char) :=
  if isPlainDomain cs then
    if cs.any isForbiddenInDomain then none else some (cs.map Char.toLower)
  else do
    let normal ← normalDomain? cs
    let labels ← (splitOn (· == '.') normal).mapM Label.of?
    if directionsFit labels && !(labels.any (·.text.any isForbiddenInDomain)) then
      some (['.'].intercalate (labels.map (·.ascii)))
    else none

end Folio.Web
