import Folio.Snapshot.Basic
import Folio.Json.Decode
/-!
Fetched documents from JSON. Every member has a default; what is not known is skipped. A document
nests as deep as the number of arrays and objects around a value allows.
-/
set_option autoImplicit false

namespace Folio.Snapshot

open Json (Members members?)

def membersAt? (depth : Nat) (names : List String) (j : Json) : Option Members :=
  if depth == 0 then none else members? names j

def listAt? {α : Type} (depth : Nat) (f : Json → Option α) (j : Json) : Option (List α) :=
  if depth == 0 then none else j.asList? f

def decodeTextRun? (depth : Nat) (j : Json) : Option String := do
  let ms ← membersAt? depth ["content"] j
  ms.withDefault "content" "" Json.asString?

def decodeRun? (depth : Nat) (j : Json) : Option Run := do
  let ms ← membersAt? depth ["startIndex", "endIndex", "textRun"] j
  let start ← ms.withDefault "startIndex" 0 Json.asCount?
  let stop ← ms.withDefault "endIndex" 0 Json.asCount?
  let text ← ms.withDefault "textRun" none (Json.asOptional? (decodeTextRun? (depth - 1)))
  some ⟨start, stop, text⟩

def decodeParagraph? (depth : Nat) (j : Json) : Option (List Run) := do
  let ms ← membersAt? depth ["elements"] j
  ms.withDefault "elements" [] (listAt? (depth - 1) (decodeRun? (depth - 2)))

def decodeCell? (depth : Nat) (element : Json → Option Element) (j : Json) : Option Cell := do
  let ms ← membersAt? depth ["startIndex", "endIndex", "content"] j
  let start ← ms.withDefault "startIndex" 0 Json.asCount?
  let stop ← ms.withDefault "endIndex" 0 Json.asCount?
  let content ← ms.withDefault "content" [] (listAt? (depth - 1) element)
  some (.mk start stop content)

def decodeRow? (depth : Nat) (element : Json → Option Element) (j : Json) : Option Row := do
  let ms ← membersAt? depth ["startIndex", "endIndex", "tableCells"] j
  let start ← ms.withDefault "startIndex" 0 Json.asCount?
  let stop ← ms.withDefault "endIndex" 0 Json.asCount?
  let cells ← ms.withDefault "tableCells" []
    (listAt? (depth - 1) (decodeCell? (depth - 2) element))
  some (.mk start stop cells)

def decodeTable? (depth : Nat) (element : Json → Option Element) (j : Json) : Option Table := do
  let ms ← membersAt? depth ["rows", "columns", "tableRows"] j
  let rows ← ms.withDefault "rows" 0 Json.asCount?
  let columns ← ms.withDefault "columns" 0 Json.asCount?
  let tableRows ← ms.withDefault "tableRows" []
    (listAt? (depth - 1) (decodeRow? (depth - 2) element))
  some (.mk rows columns tableRows)

/-- The levels between an element and the elements of a cell of its table. -/
def levelsPerTable : Nat := 7

def decodeElement? : Nat → Nat → Json → Option Element
  | 0, _, _ => none
  | fuel + 1, depth, j => do
    let ms ← membersAt? depth ["startIndex", "endIndex", "paragraph", "table"] j
    let start ← ms.withDefault "startIndex" 0 Json.asCount?
    let stop ← ms.withDefault "endIndex" 0 Json.asCount?
    let paragraph ← ms.withDefault "paragraph" none
      (Json.asOptional? (decodeParagraph? (depth - 1)))
    let table ← ms.withDefault "table" none
      (Json.asOptional? (decodeTable? (depth - 1) (decodeElement? fuel (depth - levelsPerTable))))
    some (.mk start stop paragraph table)

def elementAt? (depth : Nat) (j : Json) : Option Element := decodeElement? depth depth j

def decodeBody? (depth : Nat) (j : Json) : Option (List Element) := do
  let ms ← membersAt? depth ["content"] j
  ms.withDefault "content" [] (listAt? (depth - 1) (elementAt? (depth - 2)))

def decode? (j : Json) : Option Snapshot := do
  let depth := Json.depthLimit
  let ms ← membersAt? depth ["documentId", "title", "body"] j
  let documentId ← ms.withDefault "documentId" "" Json.asString?
  let title ← ms.withDefault "title" "" Json.asString?
  let content ← ms.withDefault "body" [] (decodeBody? (depth - 1))
  some ⟨documentId, title, content⟩

end Folio.Snapshot
