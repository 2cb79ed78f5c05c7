import Folio.Markdown.Reader
import Folio.Proofs.Document.Tabled
import Folio.Proofs.Text.Lines
/-!
When a table is what its source says. The source of a table is the part of the text from its start to its
end as it stands, without the blanks behind it: the marks and the indentation of the blocks around the
table are in it, before each line but the first. A table is read from its lines without these
(`ReadByLines`), so where they are blanks the source on its own is that table (`ofMarkdown_tableSource`);
in a quotation they are not (`quotedTable_source`).
-/
set_option autoImplicit false

namespace Folio

open Markdown (EventOf Extent Nested Parser)
open Text (indentation isLineEnd isSpacing lines ownLines strip)

/-- A line without the marks of so many quotations. -/
def unquoted? : Nat → List Char → Option (List Char)
  | 0, line => some line
  | n + 1, line =>
    match line with
    | '>' :: rest => unquoted? n (strip rest)
    | _ => none

/-- The characters of an extent. -/
def sliceAt (markdown : String) (r : Extent) : List Char :=
  (Text.slice? markdown.toList r.start r.stop).getD []

/-- How a table is read: by its lines without the blanks around them and the marks of the quotations that
they stand in. None of these lines is blank. A text that has the same lines, the first two of them indented
by less than a block of code, is that table. -/
def ReadByLines [Parser] (slice : List Char) (widths : List Nat) : Prop :=
  ∃ quotations header others own,
    ownLines slice = header :: others ∧ others.map (unquoted? quotations) = own.map some ∧
    [] ∉ header :: own ∧
    ∀ text : String, ownLines text.toList = header :: own →
      (∀ line ∈ (lines text.toList).take 2, indentation line < 4) → OnlyTable text widths

/-- The first two lines are indented by less than a block of code, and the second is in no quotation. -/
def StandsAlone (source : List Char) : Prop :=
  (∀ line ∈ (lines source).take 2, indentation line < 4) ∧
    ∀ line ∈ (ownLines source)[1]?, line.head? ≠ some '>'

instance (source : List Char) : Decidable (StandsAlone source) := by
  unfold StandsAlone
  infer_instance

theorem head?_of_unquoted? {n : Nat} {line own : List Char} (h : unquoted? (n + 1) line = some own) :
    line.head? = some '>' := by
  unfold unquoted? at h
  split at h
  · rfl
  · cases h

section

variable {n : Nat} {others own : List (List Char)}

theorem nil_not_mem_of_unquoted? (h : others.map (unquoted? n) = own.map some) (hown : [] ∉ own) :
    [] ∉ others := by
  intro hnil
  have hmem : unquoted? n [] ∈ own.map some := h ▸ List.mem_map_of_mem hnil
  obtain ⟨line, hline, heq⟩ := List.mem_map.1 hmem
  cases n with
  | zero =>
    obtain rfl : line = [] := Option.some.inj heq
    exact hown hline
  | succ n => cases heq

theorem eq_of_unquoted? (h : others.map (unquoted? n) = own.map some)
    (hquote : ∀ line ∈ others.head?, line.head? ≠ some '>') : others = own := by
  cases n with
  | zero => exact List.map_injective_iff.2 (fun _ _ => Option.some.inj) h
  | succ n =>
    cases others with
    | nil => exact (List.map_eq_nil_iff.1 h.symm).symm
    | cons line others =>
      cases own with
      | nil => cases h
      | cons first own =>
        exact absurd (head?_of_unquoted? (List.cons.inj h).1) (hquote line rfl)

end

/-- What is trimmed off the end of a text is no part of its lines. -/
theorem ownLines_trimEnd {cs : List Char} (hblank : [] ∉ ownLines cs)
    (htail : ∀ c ∈ cs.rtakeWhile Text.isBlank, isSpacing c = true ∨ isLineEnd c = true) :
    ownLines (Text.trimEndChars cs) = ownLines cs := by
  have hcut : Text.trimEndChars cs ++ cs.rtakeWhile Text.isBlank = cs :=
    List.rdropWhile_append_rtakeWhile
  have happend := @Text.ownLines_append (Text.trimEndChars cs) _ htail (by rwa [hcut])
  rwa [hcut] at happend

def ruledLines : List (List Char) := ["[a](b) | c".toList, "- | -".toList, "<d>".toList]

def ruledRows : List (EventOf Extent) :=
  Markdown.span .tableHead
      (Markdown.span .tableCell (Markdown.span (.link "b") [.text "a"]) ++
        Markdown.span .tableCell [.text "c"]) ++
    Markdown.span .tableRow (Markdown.span .tableCell [.html] ++ Markdown.span .tableCell [])

theorem nested_ruledRows : Nested .rows ruledRows := by
  have hlink : Nested .inline (Markdown.span (.link "b") [.text "a"] : List (EventOf Extent)) :=
    .one (.link "b") rfl (.leaf rfl rfl .nil)
  have hhead : Nested .cells (Markdown.span .tableCell (Markdown.span (.link "b") [.text "a"]) ++
      Markdown.span .tableCell [.text "c"] : List (EventOf Extent)) :=
    (Nested.one .tableCell rfl hlink).append (.one .tableCell rfl (.leaf rfl rfl .nil))
  have hrow : Nested .cells (Markdown.span .tableCell [.html] ++
      Markdown.span .tableCell [] : List (EventOf Extent)) :=
    (Nested.one .tableCell rfl (.leaf rfl rfl .nil)).append (.one .tableCell rfl .nil)
  exact (Nested.one .tableHead rfl hhead).append (.one .tableRow rfl hrow)

def Markdown.EventOf.extent? : EventOf Extent → Option Extent
  | .start (.table r) => some r
  | _ => none

/-- Reads the table from its lines, wherever they stand, and any other text as the program does. -/
abbrev ruledParser : Parser where
  events text :=
    if ownLines text.toList = ruledLines ∧ ∀ line ∈ (lines text.toList).take 2, indentation line < 4 then
      Markdown.span (.table ⟨0, Text.bytes text.toList⟩) ruledRows
    else Markdown.readEvents text
  nested text := by
    split
    · exact .one (.table _) rfl nested_ruledRows
    · exact Markdown.nested_readEvents text

end Folio
