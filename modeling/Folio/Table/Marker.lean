import Folio.Snapshot.Basic
import Folio.Table.Plan
import Folio.Edit.Request
import Folio.Text.Decimal
import Folio.Text.Hex
import Folio.Text.Utf16

set_option autoImplicit false

namespace Folio

/-- A marker found in a snapshot; `depth` counts the tables around it. -/
structure MarkerMatch where
  ordinal : Nat
  start : Nat
  stop : Nat
  depth : Nat
  deriving Repr, DecidableEq

def MarkerMatch.range (m : MarkerMatch) : Edit.Range := ⟨m.start, m.stop⟩

def afterLead? (lead cs : List Char) : Option (List Char) :=
  if lead.isPrefixOf cs then some (cs.drop lead.length) else none

def ordinalBound : Nat := Nat.pow 2 64

/-- The ordinal and length of the marker that a text starts with. Only a key of lower-case
hexadecimal digits makes a marker. -/
def markerAt? (key cs : List Char) : Option (Nat × Nat) :=
  if key.isEmpty || !key.all Text.isHex then none
  else match afterLead? (markerStart.toList ++ key ++ ['_']) cs with
    | none => none
    | some rest =>
      let digits := rest.takeWhile Text.isDigit
      match rest.dropWhile Text.isDigit with
      | ']' :: ']' :: _ =>
        let n := Text.valueOfDigits digits
        if digits.isEmpty || ordinalBound ≤ n then none
        else some (n, markerStart.length + key.length + 1 + digits.length + markerStop.length)
      | _ => none

/-- The markers of a text whose first character is at `index`. No two of them overlap. -/
def markersIn (key : List Char) (depth index : Nat) : List Char → List MarkerMatch
  | [] => []
  | c :: cs =>
    let rest := markersIn key depth (index + Text.charUnits c) cs
    match markerAt? key (c :: cs) with
    | some (n, length) => ⟨n, index, index + length, depth⟩ :: rest
    | none => rest

namespace Snapshot

mutual

def Element.markers (key : List Char) (depth : Nat) : Element → List MarkerMatch
  | .mk start stop paragraph table =>
    markersIn key depth start (Element.mk start stop paragraph none).text.toList ++
      match table with
      | none => []
      | some t => t.markers key depth

def Table.markers (key : List Char) (depth : Nat) : Table → List MarkerMatch
  | .mk _ _ rows => rowsMarkers key depth rows

def Row.markers (key : List Char) (depth : Nat) : Row → List MarkerMatch
  | .mk _ _ cells => cellsMarkers key depth cells

def Cell.markers (key : List Char) (depth : Nat) : Cell → List MarkerMatch
  | .mk _ _ content => elementsMarkers key (depth + 1) content

def elementsMarkers (key : List Char) (depth : Nat) : List Element → List MarkerMatch
  | [] => []
  | e :: es => e.markers key depth ++ elementsMarkers key depth es

def rowsMarkers (key : List Char) (depth : Nat) : List Row → List MarkerMatch
  | [] => []
  | r :: rs => r.markers key depth ++ rowsMarkers key depth rs

def cellsMarkers (key : List Char) (depth : Nat) : List Cell → List MarkerMatch
  | [] => []
  | c :: cs => c.markers key depth ++ cellsMarkers key depth cs

end

def markers (s : Snapshot) (fingerprint : String) : List MarkerMatch :=
  elementsMarkers fingerprint.toList 0 s.content

end Snapshot

end Folio
