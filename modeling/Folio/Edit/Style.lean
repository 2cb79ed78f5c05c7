import Folio.Number.Binary

set_option autoImplicit false

namespace Folio.Edit

abbrev HeadingLevel := Fin 6

def HeadingLevel.ofDepth (depth : Nat) : HeadingLevel := ⟨min (max depth 1) 6 - 1, by omega⟩

structure FontFamily where
  name : String
  weight : Option Nat
  deriving Repr, DecidableEq

structure Color where
  red : Single
  green : Single
  blue : Single
  deriving Repr, DecidableEq

structure Size where
  height : Double
  width : Double
  deriving Repr, DecidableEq

/-- What a style says of each property; `none` leaves the property as it is. -/
structure TextStyle where
  bold : Option Bool := none
  italic : Option Bool := none
  link : Option String := none
  font : Option FontFamily := none
  background : Option Color := none
  size : Option Double := none
  deriving Repr, DecidableEq

namespace TextStyle

def plain : TextStyle := {}
def isBold : TextStyle := { bold := some true }
def isItalic : TextStyle := { italic := some true }
def linkTo (url : String) : TextStyle := { link := some url }
def inFont (name : String) : TextStyle := { font := some ⟨name, none⟩ }

def fieldNames (s : TextStyle) : List String :=
  (if s.bold.isSome then ["bold"] else []) ++
  (if s.italic.isSome then ["italic"] else []) ++
  (if s.link.isSome then ["link"] else []) ++
  (if s.font.isSome then ["weightedFontFamily"] else []) ++
  (if s.background.isSome then ["backgroundColor"] else []) ++
  (if s.size.isSome then ["fontSize"] else [])

/-- The mask of a style: the names of what it sets, separated by commas. -/
def fields (s : TextStyle) : String := ",".intercalate s.fieldNames

end TextStyle

def codeFont : String := "Roboto Mono"

def inlineCodeStyle : TextStyle := .inFont codeFont

def codeBackground : Color :=
  let level : Single := .ofDecimal false 95 (-2)
  ⟨level, level, level⟩

def codeStyle : TextStyle := { font := some ⟨codeFont, none⟩, background := some codeBackground }

def headingPoints : HeadingLevel → Nat
  | 0 => 24
  | 1 => 20
  | 2 => 16
  | 3 => 14
  | 4 => 12
  | 5 => 11

def headingTextStyle (depth : Nat) : TextStyle :=
  { bold := some true, size := some (.ofNat (headingPoints (.ofDepth depth))) }

end Folio.Edit
