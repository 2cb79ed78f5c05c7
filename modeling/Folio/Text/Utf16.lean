set_option autoImplicit false

namespace Folio.Text

/-- A character outside the basic plane takes a surrogate pair. -/
def charUnits (c : Char) : Nat := if c.toNat < 0x10000 then 1 else 2

def unitsOf : List Char → Nat
  | [] => 0
  | c :: cs => charUnits c + unitsOf cs

def units (s : String) : Nat := unitsOf s.toList

theorem charUnits_pos (c : Char) : 0 < charUnits c := by
  unfold charUnits; split <;> decide

theorem unitsOf_append (as bs : List Char) : unitsOf (as ++ bs) = unitsOf as + unitsOf bs := by
  induction as with
  | nil => simp [unitsOf]
  | cons a as ih => simp [unitsOf, ih]; omega

theorem unitsOf_eq_zero {cs : List Char} : unitsOf cs = 0 ↔ cs = [] := by
  cases cs with
  | nil => simp [unitsOf]
  | cons c cs => have := charUnits_pos c; simp [unitsOf]; omega

theorem units_append (s t : String) : units (s ++ t) = units s + units t := by
  simp [units, unitsOf_append]

@[simp] theorem units_empty : units "" = 0 := by simp [units, unitsOf]

theorem units_eq_zero {s : String} : units s = 0 ↔ s = "" := by
  rw [units, unitsOf_eq_zero]
  exact ⟨fun h => String.ext h, fun h => by simp [h]⟩

end Folio.Text
