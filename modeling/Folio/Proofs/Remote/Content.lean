import Folio.Edit.Request
import Folio.Text.Utf16
/-!
A remote document as a row of spots, one for each position from 1 on, and what requests do to it. A
request whose positions are not in the document is refused, and with it the rest of its batch. This
is the service that batches are meant for, written down without any of the code that makes them.
-/
set_option autoImplicit false

namespace Folio.Remote

open Edit

/-- What one position of a document holds. -/
inductive Glyph where
  | char (c : Char)
  /-- The second half of a character that takes two positions. -/
  | trail
  | image (uri : String) (size : Option Size)
  | tableStart
  | rowStart
  | cellStart
  | tableStop
  deriving Repr, DecidableEq

structure Look where
  text : TextStyle
  heading : Option HeadingLevel
  deriving Repr, DecidableEq

def Look.plain : Look := ⟨.plain, none⟩

structure Spot where
  glyph : Glyph
  look : Look
  deriving Repr, DecidableEq

abbrev Content := List Spot

def glyphsOfChar (c : Char) : List Glyph := .char c :: List.replicate (Text.charUnits c - 1) .trail

def glyphsOfChars (cs : List Char) : List Glyph := cs.flatMap glyphsOfChar

def glyphsOf (text : String) : List Glyph := glyphsOfChars text.toList

def inLook (look : Look) (gs : List Glyph) : Content := gs.map (⟨·, look⟩)

def blankCell : List Glyph := [.cellStart, .char '\n']

def blankRow (columns : Nat) : List Glyph :=
  .rowStart :: (List.replicate columns blankCell).flatten

def blankTable (rows columns : Nat) : List Glyph :=
  .tableStart :: (List.replicate rows (blankRow columns)).flatten ++ [.tableStop]

def maskNames (fields : String) : List String := (fields.toList.splitOn ',').map String.ofList

/-- Sets the properties that are named, also to nothing, and leaves the others as they are. -/
def setNamed (names : List String) (style old : TextStyle) : TextStyle where
  bold := if "bold" ∈ names then style.bold else old.bold
  italic := if "italic" ∈ names then style.italic else old.italic
  link := if "link" ∈ names then style.link else old.link
  font := if "weightedFontFamily" ∈ names then style.font else old.font
  background := if "backgroundColor" ∈ names then style.background else old.background
  size := if "fontSize" ∈ names then style.size else old.size

def Look.setText (names : List String) (style : TextStyle) (l : Look) : Look :=
  { l with text := setNamed names style l.text }

def Look.setHeading (names : List String) (level : HeadingLevel) (l : Look) : Look :=
  if paragraphFields ∈ names then { l with heading := some level } else l

def Spot.mapLook (f : Look → Look) (s : Spot) : Spot := { s with look := f s.look }

/-- Puts `f` of the spots from `start` up to `stop` in their place. -/
def replaceRange (start stop : Nat) (f : Content → Content) (c : Content) : Option Content :=
  if 1 ≤ start ∧ start ≤ stop ∧ stop ≤ c.length + 1 then
    some (c.take (start - 1) ++ f ((c.drop (start - 1)).take (stop - start)) ++ c.drop (stop - 1))
  else none

/-- The document after a request. An empty range and an empty table are refused. -/
def applyRequest (c : Content) : Request → Option Content
  | .insertText i text => replaceRange i i (fun _ => inLook .plain (glyphsOf text)) c
  | .insertImage i uri size => replaceRange i i (fun _ => inLook .plain [.image uri size]) c
  | .insertTable i rows columns =>
    if 1 ≤ rows ∧ 1 ≤ columns then
      replaceRange i i (fun _ => inLook .plain (blankTable rows columns)) c
    else none
  | .styleText r style fields =>
    if r.isEmpty then none
    else replaceRange r.start r.stop
      (List.map (Spot.mapLook (Look.setText (maskNames fields) style))) c
  | .styleParagraph r level fields =>
    if r.isEmpty then none
    else replaceRange r.start r.stop
      (List.map (Spot.mapLook (Look.setHeading (maskNames fields) level))) c
  | .delete r => if r.isEmpty then none else replaceRange r.start r.stop (fun _ => []) c

def carryOut : List Request → Content → Option Content
  | [], c => some c
  | r :: rs, c => (applyRequest c r).bind (carryOut rs)

theorem carryOut_append (as bs : List Request) (c : Content) :
    carryOut (as ++ bs) c = (carryOut as c).bind (carryOut bs) := by
  induction as generalizing c with
  | nil => rfl
  | cons a as ih => cases h : applyRequest c a <;> simp [carryOut, h, ih]

@[simp] theorem inLook_length (look : Look) (gs : List Glyph) :
    (inLook look gs).length = gs.length := by
  simp [inLook]

theorem glyphsOfChars_length (cs : List Char) : (glyphsOfChars cs).length = Text.unitsOf cs := by
  induction cs with
  | nil => rfl
  | cons c cs ih =>
    have hpos := Text.charUnits_pos c
    simp only [glyphsOfChars, List.flatMap_cons, List.length_append] at ih ⊢
    rw [ih]
    simp only [glyphsOfChar, List.length_cons, List.length_replicate, Text.unitsOf]
    omega

@[simp] theorem glyphsOf_length (text : String) : (glyphsOf text).length = Text.units text :=
  glyphsOfChars_length text.toList

@[simp] theorem glyphsOf_empty : glyphsOf "" = [] := by simp [glyphsOf, glyphsOfChars]

/-- The mask of a style names exactly what the style sets. -/
theorem mem_maskNames_fields (style : TextStyle) {name : String} (hname : name ≠ "") :
    name ∈ maskNames style.fields ↔ name ∈ style.fieldNames := by
  by_cases h : style.fieldNames = []
  · have hmask : maskNames style.fields = [""] := by simp [TextStyle.fields, h, maskNames]
    simp [hmask, h, hname]
  · have hsep : ∀ l ∈ style.fieldNames.map String.toList, ',' ∉ l := by
      intro l hl
      simp only [TextStyle.fieldNames, List.map_append, List.mem_append] at hl
      rcases hl with ((((hl | hl) | hl) | hl) | hl) | hl <;>
        · split at hl <;> simp at hl
          subst hl
          decide
    have hmask : maskNames style.fields = style.fieldNames := by
      rw [maskNames, TextStyle.fields, String.toList_intercalate]
      rw [show (",".toList : List Char) = [','] from rfl]
      rw [List.splitOn_intercalate ',' hsep (by simpa using h)]
      simp
    rw [hmask]

def overlay (style old : TextStyle) : TextStyle where
  bold := style.bold.or old.bold
  italic := style.italic.or old.italic
  link := style.link.or old.link
  font := style.font.or old.font
  background := style.background.or old.background
  size := style.size.or old.size

theorem ite_mem_maskNames {α : Type} {style : TextStyle} {name : String} (hname : name ≠ "")
    {new : Option α} (hset : name ∈ style.fieldNames ↔ new.isSome) (old : Option α) :
    (if name ∈ maskNames style.fields then new else old) = new.or old := by
  have h := (mem_maskNames_fields style hname).trans hset
  cases new with
  | none => rw [if_neg (fun hm => by simpa using h.1 hm)]; rfl
  | some a => rw [if_pos (h.2 rfl)]; rfl

theorem setNamed_fields (style old : TextStyle) :
    setNamed (maskNames style.fields) style old = overlay style old := by
  simp only [setNamed, overlay, TextStyle.mk.injEq]
  refine ⟨?_, ?_, ?_, ?_, ?_, ?_⟩ <;>
    exact ite_mem_maskNames (by decide) (by simp [TextStyle.fieldNames]) _

theorem setText_fields (style : TextStyle) :
    Look.setText (maskNames style.fields) style =
      fun l => { l with text := overlay style l.text } := by
  funext l
  rw [Look.setText, setNamed_fields]

theorem setHeading_paragraphFields (level : HeadingLevel) :
    Look.setHeading (maskNames paragraphFields) level =
      fun l => { l with heading := some level } := by
  funext l
  have h : paragraphFields ∈ maskNames paragraphFields := by decide
  rw [Look.setHeading, if_pos h]

end Folio.Remote
