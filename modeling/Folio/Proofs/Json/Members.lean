import Folio.Json.Decode
import Folio.Proofs.Json.Reading

set_option autoImplicit false

namespace Folio.Json

def at? : List String → Json → Option Json
  | [], v => some v
  | name :: path, .object ms => (ms.lookup name).bind (at? path)
  | _, _ => none

section

variable {α : Type} {f : Number → Number} {ms : List (String × Json)}

theorem members?_object (r : Rules) {names : List String} (hsub : (ms.map (·.1)).Sublist names)
    (hnames : names.Nodup) : r.members? names (.object ms) = some ⟨ms, false⟩ := by
  have hknown : (ms.filter fun m => names.contains m.1) = ms := by
    refine List.filter_eq_self.2 fun m hm => ?_
    rw [List.contains_iff_mem]
    exact hsub.subset (List.mem_map_of_mem hm)
  have hnodup : (ms.map (·.1)).Nodup := hnames.sublist hsub
  simp only [Rules.members?, hknown, if_pos hnodup]

theorem map_fst_mapMembers : (mapMembers f ms).map (·.1) = ms.map (·.1) := by
  rw [mapMembers_eq_map, List.map_map]
  rfl

theorem members?_mapMembers (r : Rules) {names : List String}
    (hsub : (ms.map (·.1)).Sublist names) (hnames : names.Nodup) :
    r.members? names (.object (mapMembers f ms)) = some ⟨mapMembers f ms, false⟩ :=
  members?_object r (by rw [map_fst_mapMembers]; exact hsub) hnames

theorem lookup_mapMembers (name : String) :
    (mapMembers f ms).lookup name = (ms.lookup name).map (mapNumbers f) := by
  induction ms with
  | nil => rfl
  | cons m ms ih =>
    rw [mapMembers, List.lookup_cons, List.lookup_cons]
    split
    · rfl
    · exact ih

theorem lookup_member? (encode : α → Json) (name key : String) (o : Option α) :
    (member? name encode o).lookup key = if key == name then o.map encode else none := by
  cases o with
  | none => simp [member?]
  | some a =>
    simp only [member?, List.lookup_cons, List.lookup_nil, Option.map_some]
    split <;> simp_all

theorem member?_sublist (encode : α → Json) (name : String) (o : Option α) :
    ((member? name encode o).map (·.1)).Sublist [name] := by
  cases o with
  | none => exact List.nil_sublist _
  | some a => exact List.Sublist.refl _

namespace Members

variable {name : String} {decode : Json → Option α}

theorem required_mapMembers :
    (Members.mk (mapMembers f ms) false).required name decode =
      (ms.lookup name).bind fun v => decode (v.mapNumbers f) := by
  rw [required, get?, lookup_mapMembers, Option.bind_map]
  rfl

theorem withDefault_mapMembers (a : α) :
    (Members.mk (mapMembers f ms) false).withDefault name a decode =
      (ms.lookup name).elim (some a) fun v => decode (v.mapNumbers f) := by
  rw [withDefault, get?, lookup_mapMembers]
  cases ms.lookup name <;> rfl

end Members

theorem asBool?_mapNumbers (b : Bool) : asBool? ((Json.bool b).mapNumbers f) = some b := rfl

theorem asString?_mapNumbers (s : String) : asString? ((Json.string s).mapNumbers f) = some s := rfl

theorem asOptional?_of_some {decode : Json → Option α} (hnull : decode .null = none) {v : Json}
    {a : α} (h : decode v = some a) : asOptional? decode v = some (some a) := by
  rw [asOptional?]
  · rw [h]
    rfl
  · rintro rfl
    rw [hnull] at h
    cases h

/-- A member that is left out when there is no value is decoded to what was written. -/
theorem Members.withDefault_optional {encode : α → Json} {decode : Json → Option α} {name : String}
    {o : Option α} (hlookup : ms.lookup name = o.map encode)
    (h : ∀ a ∈ o, decode ((encode a).mapNumbers f) = some a) (hnull : decode .null = none) :
    (Members.mk (mapMembers f ms) false).withDefault name none (asOptional? decode) = some o := by
  rw [withDefault_mapMembers, hlookup]
  cases o with
  | none => rfl
  | some a => exact asOptional?_of_some hnull (h a rfl)

end

theorem asList?_mapNumbers {α : Type} {f : Number → Number} {encode : α → Json} {decode : Json → Option α}
    {as : List α} (h : ∀ a ∈ as, decode ((encode a).mapNumbers f) = some a) :
    asList? decode ((Json.array (as.map encode)).mapNumbers f) = some as := by
  rw [mapNumbers, mapItems_eq_map, List.map_map, asList?]
  induction as with
  | nil => rfl
  | cons a as ih =>
    have ha := h a List.mem_cons_self
    have has := ih fun a ha => h a (List.mem_cons_of_mem _ ha)
    rw [List.map_cons, List.mapM_cons, has, Function.comp_apply, ha]
    rfl

def Number.KeptBy (f : Number → Number) : Number → Prop
  | .natural n => n < naturalBound ∧ f (.natural n) = .natural n
  | .negative n => f (.negative n) = .negative n
  | .double x => x.isFinite = true ∧ asDouble? (.number (f (.double x))) = some x
  | .single x => x.isFinite = true ∧ asSingle? (.number (f (.single x))) = some x

/-- Whether a number is found again in its text: integers of 64 bits, and other finite numbers whose
text is read as the same number. -/
def Number.Survives : Number → Prop
  | .natural n => n < naturalBound
  | .negative n => (Number.negative n).again? = some (.negative n)
  | .double x =>
    x.isFinite = true ∧ (Number.double x).again?.bind (fun n => asDouble? (.number n)) = some x
  | .single x =>
    x.isFinite = true ∧ (Number.single x).again?.bind (fun n => asSingle? (.number n)) = some x

namespace Number

instance : DecidablePred Survives
  | .natural n => inferInstanceAs (Decidable (n < naturalBound))
  | .negative n => inferInstanceAs (Decidable ((Number.negative n).again? = some (.negative n)))
  | .double x => inferInstanceAs (Decidable (x.isFinite = true ∧
      (Number.double x).again?.bind (fun n => asDouble? (.number n)) = some x))
  | .single x => inferInstanceAs (Decidable (x.isFinite = true ∧
      (Number.single x).again?.bind (fun n => asSingle? (.number n)) = some x))

theorem Survives.isSome {n : Number} (h : n.Survives) : n.again?.isSome = true := by
  cases n with
  | natural n => rw [again?_natural h]; rfl
  | negative n => rw [h]; rfl
  | double x | single x =>
    obtain ⟨m, hm, -⟩ := Option.bind_eq_some_iff.1 h.2
    rw [hm]
    rfl

theorem Survives.keptBy_again {n : Number} (h : n.Survives) : n.KeptBy again := by
  cases n with
  | natural n => exact ⟨h, by rw [again, again?_natural h]; rfl⟩
  | negative n => exact by rw [KeptBy, again, h]; rfl
  | double x | single x =>
    obtain ⟨m, hm, hx⟩ := Option.bind_eq_some_iff.1 h.2
    exact ⟨h.1, by rw [again, hm]; exact hx⟩

theorem Survives.keptBy_id {n : Number} (h : n.Survives) : n.KeptBy id := by
  cases n with
  | natural n => exact ⟨h, rfl⟩
  | negative n => rfl
  | double x | single x => exact ⟨h.1, rfl⟩

end Number

section

variable {f : Number → Number}

theorem asNat?_nat {n bound : Nat} (h : (Number.natural n).KeptBy f) (hn : n < bound) :
    asNat? bound ((nat n).mapNumbers f) = some n := by
  rw [nat, mapNumbers, h.2]
  exact if_pos hn

theorem asCount?_nat {n : Nat} (h : (Number.natural n).KeptBy f) :
    asCount? ((nat n).mapNumbers f) = some n :=
  asNat?_nat h h.1

theorem asDouble?_ofDouble {x : Double} (h : (Number.double x).KeptBy f) :
    asDouble? ((ofDouble x).mapNumbers f) = some x := by
  rw [ofDouble, if_pos h.1, mapNumbers, h.2]

theorem asSingle?_ofSingle {x : Single} (h : (Number.single x).KeptBy f) :
    asSingle? ((ofSingle x).mapNumbers f) = some x := by
  rw [ofSingle, if_pos h.1, mapNumbers, h.2]

theorem isLegible_bool (b : Bool) : (Json.bool b).isLegible = true := rfl

theorem isLegible_string (s : String) : (Json.string s).isLegible = true := rfl

theorem isLegible_nat {n : Nat} (h : (Number.natural n).Survives) : (nat n).isLegible = true :=
  h.isSome

theorem isLegible_ofDouble {x : Double} (h : (Number.double x).Survives) :
    (ofDouble x).isLegible = true := by
  rw [ofDouble, if_pos h.1]
  exact h.isSome

theorem isLegible_ofSingle {x : Single} (h : (Number.single x).Survives) :
    (ofSingle x).isLegible = true := by
  rw [ofSingle, if_pos h.1]
  exact h.isSome

theorem membersLegible_append (ms ms' : List (String × Json)) :
    membersLegible (ms ++ ms') = (membersLegible ms && membersLegible ms') := by
  rw [Bool.eq_iff_iff, Bool.and_eq_true, membersLegible_iff, membersLegible_iff, membersLegible_iff]
  exact List.forall_mem_append

theorem membersLegible_member? {α : Type} (name : String) {encode : α → Json} {o : Option α}
    (h : ∀ a ∈ o, (encode a).isLegible = true) : membersLegible (member? name encode o) = true := by
  cases o with
  | none => rfl
  | some a => simp [member?, membersLegible, h a rfl]

end

end Folio.Json
