import Folio.File.Path

set_option autoImplicit false

namespace Folio.File

inductive Entry where
  | file (content : List UInt8)
  | directory
  deriving Repr, DecidableEq

/-- Where something lies: its names from the root, none of them going up. -/
abbrev Place := List (List Char)

/-- What lies where; the root is always a directory. Of two entries for a place the first counts. -/
structure Tree where
  entries : List (Place × Entry)
  deriving Repr, DecidableEq

namespace Tree

def empty : Tree := ⟨[]⟩

def lookup? (t : Tree) (place : Place) : Option Entry :=
  if place.isEmpty then some .directory else t.entries.lookup place

def put (t : Tree) (place : Place) (e : Entry) : Tree := ⟨(place, e) :: t.entries⟩

theorem lookup?_put {t : Tree} {place : Place} {e : Entry} (h : place ≠ []) :
    (t.put place e).lookup? place = some e := by
  simp [lookup?, put, h]

theorem lookup?_put_of_ne {t : Tree} {place other : Place} {e : Entry} (h : other ≠ place) :
    (t.put place e).lookup? other = t.lookup? other := by
  simp [lookup?, put, List.lookup_cons, beq_eq_false_iff_ne.2 h]

/-- Follows names down from a place. All but the last must be directories. -/
def follow? (t : Tree) (place : Place) : List (List Char) → Option Place
  | [] => some place
  | name :: rest =>
    if t.lookup? place = some .directory && isName name then
      t.follow? (if name == up then place.dropLast else place ++ [name]) rest
    else none

/-- Only directories are passed on the way, so what lies elsewhere does not matter. -/
theorem follow?_put {t : Tree} {spot : Place} {e : Entry} (h : t.lookup? spot ≠ some .directory)
    {place target : Place} {ns : List (List Char)} (hf : t.follow? place ns = some target) :
    (t.put spot e).follow? place ns = some target := by
  induction ns generalizing place with
  | nil => exact hf
  | cons name rest ih =>
    simp only [follow?, Bool.and_eq_true, decide_eq_true_eq, Option.ite_none_right_eq_some] at hf ⊢
    obtain ⟨⟨hd, hn⟩, hr⟩ := hf
    have hne : place ≠ spot := fun he => h (he ▸ hd)
    exact ⟨⟨(lookup?_put_of_ne hne).trans hd, hn⟩, ih hr⟩

def find? (t : Tree) (path : String) : Option Entry :=
  ((t.follow? [] (names path)).bind t.lookup?).filter fun e => !meansDirectory path || e == .directory

def contains (t : Tree) (path : String) : Bool := (t.find? path).isSome

def read? (t : Tree) (path : String) : Option (List UInt8) :=
  match t.find? path with
  | some (.file content) => some content
  | _ => none

def makeDirectory? (t : Tree) (place : Place) : Option Tree :=
  match t.lookup? place with
  | some .directory => some t
  | some (.file _) => none
  | none => some (t.put place .directory)

def makeAll? (t : Tree) (place : Place) : List (List Char) → Option Tree
  | [] => some t
  | name :: rest =>
    if name == up then t.makeAll? place.dropLast rest
    else if !isName name then none
    else (t.makeDirectory? (place ++ [name])).bind fun t => t.makeAll? (place ++ [name]) rest

def write? (t : Tree) (path : String) (content : List UInt8) : Option Tree :=
  if meansDirectory path then none
  else (t.follow? [] (names path)).bind fun place =>
    if t.lookup? place = some .directory then none else some (t.put place (.file content))

theorem read?_write? {t t' : Tree} {path : String} {content : List UInt8}
    (h : t.write? path content = some t') : t'.read? path = some content := by
  simp only [write?, Option.ite_none_left_eq_some, Option.bind_eq_some_iff] at h
  obtain ⟨hm, place, hf, hd, ht⟩ := h
  cases ht
  have hp : place ≠ [] := fun he => hd (by simp [he, lookup?])
  have hl := lookup?_put (t := t) (e := .file content) hp
  simp [read?, find?, follow?_put hd hf, hl, hm, Option.filter]

/-- Writes a file and makes the directories above it. What was made stays when the writing fails. -/
def save (t : Tree) (path : String) (content : List UInt8) : Bool × Tree :=
  match t.makeAll? [] (names path).dropLast with
  | none => (false, t)
  | some t =>
    match t.write? path content with
    | some t => (true, t)
    | none => (false, t)

theorem read?_save {t : Tree} {path : String} {content : List UInt8}
    (h : (t.save path content).1 = true) : (t.save path content).2.read? path = some content := by
  unfold save at h ⊢
  split
  · simp_all
  · split
    · next hw => exact read?_write? hw
    · simp_all

end Tree

end Folio.File
