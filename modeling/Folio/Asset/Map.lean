set_option autoImplicit false

namespace Folio

structure AssetMap where
  entries : List (Nat × String)
  deriving Repr, DecidableEq

namespace AssetMap

def empty : AssetMap := ⟨[]⟩

def insertEntry (id : Nat) (url : String) : List (Nat × String) → List (Nat × String)
  | [] => [(id, url)]
  | (i, u) :: rest =>
    if id < i then (id, url) :: (i, u) :: rest
    else if id == i then (id, url) :: rest
    else (i, u) :: insertEntry id url rest

def insert (m : AssetMap) (id : Nat) (url : String) : AssetMap := ⟨insertEntry id url m.entries⟩

def get? (m : AssetMap) (id : Nat) : Option String := m.entries.lookup id

def size (m : AssetMap) : Nat := m.entries.length

def isEmpty (m : AssetMap) : Bool := m.entries.isEmpty

theorem lookup_cons_if (i j : Nat) (u : String) (es : List (Nat × String)) :
    ((j, u) :: es).lookup i = if i = j then some u else es.lookup i := by
  by_cases h : i = j
  · simp [h]
  · simp [List.lookup_cons, beq_eq_false_iff_ne.2 h, h]

theorem lookup_insertEntry (id : Nat) (url : String) (es : List (Nat × String)) (i : Nat) :
    (insertEntry id url es).lookup i = if i = id then some url else es.lookup i := by
  induction es with
  | nil => simp [insertEntry, lookup_cons_if]
  | cons e es ih =>
    obtain ⟨j, u⟩ := e
    simp only [insertEntry]
    split
    · simp [lookup_cons_if]
    · split
      · rename_i hj
        have hj : id = j := by simpa using hj
        subst hj
        simp only [lookup_cons_if]
        split <;> rfl
      · rename_i hj
        have hj : id ≠ j := by simpa using hj
        simp only [lookup_cons_if, ih]
        split
        · split <;> simp_all
        · rfl

theorem get?_insert (m : AssetMap) (id : Nat) (url : String) (i : Nat) :
    (m.insert id url).get? i = if i = id then some url else m.get? i :=
  lookup_insertEntry id url m.entries i

end AssetMap

end Folio
