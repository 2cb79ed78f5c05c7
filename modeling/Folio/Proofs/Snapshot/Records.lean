import Folio.Snapshot.Decode
/-!
The structures of a fetched document as one family: their members, what each member holds, its default,
and how it is decoded. A structure is decoded from what its members hold and from nothing else
(`Record.upheld`).
-/
set_option autoImplicit false

namespace Folio.Snapshot

open Json (Members)

inductive Record where
  | document
  | body
  | element
  | paragraph
  | run
  | textRun
  | table
  | row
  | cell
  deriving Repr, DecidableEq

inductive Entry where
  | text
  | count
  | one (r : Record)
  | optional (r : Record)
  | list (r : Record)
  deriving Repr, DecidableEq

namespace Record

def members : Record → List (String × Entry)
  | document => [("documentId", .text), ("title", .text), ("body", .one body)]
  | body => [("content", .list element)]
  | element => [("startIndex", .count), ("endIndex", .count), ("paragraph", .optional paragraph),
      ("table", .optional table)]
  | paragraph => [("elements", .list run)]
  | run => [("startIndex", .count), ("endIndex", .count), ("textRun", .optional textRun)]
  | textRun => [("content", .text)]
  | table => [("rows", .count), ("columns", .count), ("tableRows", .list row)]
  | row => [("startIndex", .count), ("endIndex", .count), ("tableCells", .list cell)]
  | cell => [("startIndex", .count), ("endIndex", .count), ("content", .list element)]

def names (r : Record) : List String := r.members.map (·.1)

theorem nodup_names (r : Record) : r.names.Nodup := by
  cases r <;> decide

def Value : Record → Type
  | document => Snapshot
  | body => List Element
  | element => Element
  | paragraph => List Run
  | run => Run
  | textRun => String
  | table => Table
  | row => Row
  | cell => Cell

def default : (r : Record) → r.Value
  | document => (⟨"", "", []⟩ : Snapshot)
  | body => ([] : List Element)
  | element => Element.mk 0 0 none none
  | paragraph => ([] : List Run)
  | run => (⟨0, 0, none⟩ : Run)
  | textRun => ""
  | table => Table.mk 0 0 []
  | row => Row.mk 0 0 []
  | cell => Cell.mk 0 0 []

end Record

def decodeAt? (depth : Nat) (j : Json) : Option Snapshot := do
  let ms ← membersAt? depth ["documentId", "title", "body"] j
  let documentId ← ms.withDefault "documentId" "" Json.asString?
  let title ← ms.withDefault "title" "" Json.asString?
  let content ← ms.withDefault "body" [] (decodeBody? (depth - 1))
  some ⟨documentId, title, content⟩

theorem decode?_eq (j : Json) : decode? j = decodeAt? Json.depthLimit j := rfl

theorem decodeElement?_eq {fuel fuel' depth : Nat} (h : depth ≤ fuel) (h' : depth ≤ fuel') :
    decodeElement? fuel depth = decodeElement? fuel' depth := by
  induction fuel generalizing fuel' depth with
  | zero =>
    obtain rfl : depth = 0 := by omega
    cases fuel' <;> rfl
  | succ fuel ih =>
    cases fuel' with
    | zero =>
      obtain rfl : depth = 0 := by omega
      rfl
    | succ fuel' =>
      cases depth with
      | zero => rfl
      | succ depth =>
        have hdeeper : decodeElement? fuel (depth + 1 - levelsPerTable) =
            decodeElement? fuel' (depth + 1 - levelsPerTable) :=
          ih (by rw [levelsPerTable]; omega) (by rw [levelsPerTable]; omega)
        funext j
        rw [decodeElement?, decodeElement?, hdeeper]

theorem elementAt?_eq (depth : Nat) (j : Json) : elementAt? depth j = (do
    let ms ← membersAt? depth ["startIndex", "endIndex", "paragraph", "table"] j
    let start ← ms.withDefault "startIndex" 0 Json.asCount?
    let stop ← ms.withDefault "endIndex" 0 Json.asCount?
    let paragraph ← ms.withDefault "paragraph" none
      (Json.asOptional? (decodeParagraph? (depth - 1)))
    let table ← ms.withDefault "table" none
      (Json.asOptional? (decodeTable? (depth - 1) (elementAt? (depth - levelsPerTable))))
    some (.mk start stop paragraph table)) := by
  cases depth with
  | zero => rfl
  | succ depth =>
    have hdeeper : decodeElement? depth (depth + 1 - levelsPerTable) =
        elementAt? (depth + 1 - levelsPerTable) :=
      decodeElement?_eq (by rw [levelsPerTable]; omega) (Nat.le_refl _)
    rw [elementAt?, decodeElement?, hdeeper]

/-- How a structure inside at most `depth` levels is decoded. There are six levels from a table down to
the elements of its cells, and two less for a row and for a cell. -/
def Record.decode? (depth : Nat) : (r : Record) → Json → Option r.Value
  | .document => decodeAt? depth
  | .body => decodeBody? depth
  | .element => elementAt? depth
  | .paragraph => decodeParagraph? depth
  | .run => decodeRun? depth
  | .textRun => decodeTextRun? depth
  | .table => decodeTable? depth (elementAt? (depth - 6))
  | .row => decodeRow? depth (elementAt? (depth - 4))
  | .cell => decodeCell? depth (elementAt? (depth - 2))

namespace Entry

def Value : Entry → Type
  | text => String
  | count => Nat
  | one r => r.Value
  | optional r => Option r.Value
  | list r => List r.Value

def default : (e : Entry) → e.Value
  | text => ""
  | count => (0 : Nat)
  | one r => r.default
  | optional r => (none : Option r.Value)
  | list r => ([] : List r.Value)

def decode? (depth : Nat) : (e : Entry) → Json → Option e.Value
  | text => Json.asString?
  | count => Json.asCount?
  | one r => r.decode? depth
  | optional r => Json.asOptional? (r.decode? depth)
  | list r => listAt? depth (r.decode? (depth - 1))

def read? (depth : Nat) (ms : Members) (name : String) (e : Entry) : Option e.Value :=
  ms.withDefault name e.default (e.decode? (depth - 1))

end Entry

/-- The second result is the first one, if there is a first one. -/
def Upheld {α : Type} (x y : Option α) : Prop := ∀ a, x = some a → y = some a

section

variable {α β γ : Type} {x y : Option α}

theorem Upheld.refl (x : Option α) : Upheld x x := fun _ h => h

theorem upheld_bind {z : Option γ} {f : α → Option β} {g : γ → Option β}
    (h : ∀ a, x = some a → ∃ c, z = some c ∧ Upheld (f a) (g c)) : Upheld (x >>= f) (z >>= g) := by
  intro b hb
  obtain ⟨a, ha, hfa⟩ := Option.bind_eq_some_iff.1 hb
  obtain ⟨c, hc, hup⟩ := h a ha
  exact Option.bind_eq_some_iff.2 ⟨c, hc, hup b hfa⟩

theorem Upheld.bind {f g : α → Option β} (h : Upheld x y) (hfg : ∀ a, Upheld (f a) (g a)) :
    Upheld (x >>= f) (y >>= g) :=
  upheld_bind fun a ha => ⟨a, h a ha, hfg a⟩

end

def Record.Carries (r : Record) (depth : Nat) (ms ms' : Members) : Prop :=
  ∀ m ∈ r.members, Upheld (m.2.read? depth ms m.1) (m.2.read? depth ms' m.1)

theorem Record.upheld {r : Record} {depth : Nat} {j j' : Json}
    (h : ∀ ms, membersAt? depth r.names j = some ms →
      ∃ ms', membersAt? depth r.names j' = some ms' ∧ r.Carries depth ms ms') :
    Upheld (r.decode? depth j) (r.decode? depth j') := by
  have hmembers {β : Type} {f : Members → Option β}
      (hf : ∀ ms ms', r.Carries depth ms ms' → Upheld (f ms) (f ms')) :
      Upheld (membersAt? depth r.names j >>= f) (membersAt? depth r.names j' >>= f) :=
    upheld_bind fun ms hms => by
      obtain ⟨ms', hms', hcarries⟩ := h ms hms
      exact ⟨ms', hms', hf ms ms' hcarries⟩
  cases r with
  | body | paragraph | textRun => exact hmembers fun ms ms' hcarries => hcarries _ (.head _)
  | document | run | table | row | cell =>
    refine hmembers fun ms ms' hcarries => ?_
    simp only [Carries, members, List.forall_mem_cons] at hcarries
    obtain ⟨hfirst, hsecond, hthird, -⟩ := hcarries
    exact hfirst.bind fun _ => hsecond.bind fun _ => hthird.bind fun _ => .refl _
  | element =>
    simp only [decode?, elementAt?_eq]
    refine hmembers fun ms ms' hcarries => ?_
    simp only [Carries, members, List.forall_mem_cons] at hcarries
    obtain ⟨hstart, hstop, hparagraph, htable, -⟩ := hcarries
    exact hstart.bind fun _ => hstop.bind fun _ => hparagraph.bind fun _ => htable.bind fun _ => .refl _

end Folio.Snapshot
