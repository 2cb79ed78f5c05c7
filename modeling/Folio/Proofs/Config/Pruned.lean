import Folio.Proofs.Json.Members
import Folio.Proofs.Toml.Sheets
/-!
Objects of which only some members are kept, down to a number of levels. The paths of the members
decide; what lies deeper is kept or dropped as a whole. JSON values and TOML documents are pruned
alike.
-/
set_option autoImplicit false

namespace Folio

def beneath (key : String) (keep : List String → Bool) (path : List String) : Bool := keep (key :: path)

theorem map_fst_filterMap_sublist {β γ : Type} {g : String × β → Option (String × γ)}
    (h : ∀ m, ∀ m' ∈ g m, m'.1 = m.1) (ms : List (String × β)) :
    ((ms.filterMap g).map (·.1)).Sublist (ms.map (·.1)) := by
  induction ms with
  | nil => exact List.Sublist.refl _
  | cons m ms ih =>
    rw [List.filterMap_cons]
    split
    · exact ih.cons m.1
    · rename_i m' hm'
      rw [List.map_cons, List.map_cons, h m m' hm']
      exact ih.cons_cons m.1

namespace Json

/-- The members at kept paths, down to `n` levels. -/
def kept : Nat → (List String → Bool) → Json → Json
  | n + 1, keep, .object ms =>
    .object (ms.filterMap fun m =>
      if keep [m.1] then some (m.1, m.2.kept n (beneath m.1 keep)) else none)
  | _, _, v => v

def keptMembers (n : Nat) (keep : List String → Bool) (ms : List (String × Json)) :
    List (String × Json) :=
  ms.filterMap fun m => if keep [m.1] then some (m.1, m.2.kept n (beneath m.1 keep)) else none

section

variable {n : Nat} {keep : List String → Bool} {f : Number → Number} {ms : List (String × Json)}

theorem kept_object : (Json.object ms).kept (n + 1) keep = .object (keptMembers n keep ms) := rfl

theorem kept_zero (v : Json) : v.kept 0 keep = v := by
  cases v <;> rfl

theorem keptMembers_cons (m : String × Json) (ms : List (String × Json)) :
    keptMembers n keep (m :: ms) =
      (if keep [m.1] then [(m.1, m.2.kept n (beneath m.1 keep))] else []) ++ keptMembers n keep ms := by
  rw [keptMembers, List.filterMap_cons]
  cases keep [m.1] <;> rfl

theorem keptMembers_sublist : ((keptMembers n keep ms).map (·.1)).Sublist (ms.map (·.1)) := by
  refine map_fst_filterMap_sublist (fun m m' hm' => ?_) ms
  split at hm'
  · cases hm'
    rfl
  · cases hm'

theorem lookup_keptMembers (name : String) :
    (keptMembers n keep ms).lookup name =
      if keep [name] then (ms.lookup name).map (kept n (beneath name keep)) else none := by
  induction ms with
  | nil => cases keep [name] <;> rfl
  | cons m ms ih =>
    rw [keptMembers_cons, List.lookup_append, ih, List.lookup_cons]
    cases hname : name == m.1 with
    | true =>
      rw [beq_iff_eq] at hname
      subst hname
      cases keep [m.1] <;> simp
    | false =>
      cases keep [m.1] <;> simp [List.lookup_cons, hname]

theorem mapMembers_keptMembers (h : ∀ keep v, (kept n keep v).mapNumbers f = (v.mapNumbers f).kept n keep) :
    mapMembers f (keptMembers n keep ms) = keptMembers n keep (mapMembers f ms) := by
  induction ms with
  | nil => rfl
  | cons m ms ih =>
    rw [mapMembers, keptMembers_cons, keptMembers_cons, ← ih]
    cases keep [m.1] with
    | true => simp only [if_true, List.singleton_append, mapMembers, h]
    | false => rfl

theorem kept_mapNumbers : ∀ (n : Nat) (keep : List String → Bool) (v : Json),
    (v.kept n keep).mapNumbers f = (v.mapNumbers f).kept n keep
  | 0, keep, v => by rw [kept_zero, kept_zero]
  | n + 1, keep, .object ms => by
    rw [kept_object, mapNumbers, mapMembers_keptMembers (kept_mapNumbers n), mapNumbers, kept_object]
  | _ + 1, _, .null | _ + 1, _, .bool _ | _ + 1, _, .number _ | _ + 1, _, .string _
  | _ + 1, _, .array _ | _ + 1, _, .unreadable => rfl

theorem isLegible_kept : ∀ (n : Nat) (keep : List String → Bool) {v : Json}, v.isLegible = true →
    (v.kept n keep).isLegible = true
  | 0, keep, v, h => by rw [kept_zero]; exact h
  | n + 1, keep, .object ms, h => by
    rw [isLegible, membersLegible_iff] at h
    rw [kept_object, isLegible, membersLegible_iff]
    intro m hm
    obtain ⟨m', hm', hsome⟩ := List.mem_filterMap.1 hm
    split at hsome
    · cases hsome
      exact isLegible_kept n _ (h m' hm')
    · cases hsome
  | _ + 1, _, .null, h | _ + 1, _, .bool _, h | _ + 1, _, .number _, h | _ + 1, _, .string _, h
  | _ + 1, _, .array _, h => h

theorem kept_all : ∀ (n : Nat) (v : Json), v.kept n (fun _ => true) = v
  | 0, v => kept_zero v
  | n + 1, .object ms => by
    have hself : (fun m : String × Json => some (m.1, m.2.kept n (fun _ => true))) = some :=
      funext fun m => congrArg (fun v => some (m.1, v)) (kept_all n m.2)
    have hms : keptMembers n (fun _ => true) ms = ms :=
      (congrArg (List.filterMap · ms) hself).trans List.filterMap_some
    rw [kept_object, hms]
  | _ + 1, .null | _ + 1, .bool _ | _ + 1, .number _ | _ + 1, .string _
  | _ + 1, .array _ | _ + 1, .unreadable => rfl

theorem asBool?_kept (b : Bool) : asBool? (((Json.bool b).kept n keep).mapNumbers f) = some b := by
  cases n <;> rfl

theorem asString?_kept (s : String) :
    asString? (((Json.string s).kept n keep).mapNumbers f) = some s := by
  cases n <;> rfl

variable {α : Type} {name : String} {decode : Json → Option α}

theorem decode_kept_zero {decode : Json → Option α} {v : Json} {a : α}
    (h : decode (v.mapNumbers f) = some a) : decode ((v.kept 0 keep).mapNumbers f) = some a := by
  rw [kept_zero]
  exact h

variable (f n keep)

theorem members?_keptMembers (r : Rules) {names : List String} (hsub : (ms.map (·.1)).Sublist names)
    (hnames : names.Nodup) :
    r.members? names (((Json.object ms).kept (n + 1) keep).mapNumbers f) =
      some ⟨mapMembers f (keptMembers n keep ms), false⟩ := by
  rw [kept_object, mapNumbers]
  exact members?_mapMembers r (keptMembers_sublist.trans hsub) hnames

/-- A member that is kept has the value that was written, one that is dropped has the default. -/
theorem withDefault_kept {v : Json} {a : α} (hlookup : ms.lookup name = some v)
    (h : decode ((v.kept n (beneath name keep)).mapNumbers f) = some a) (b : α) :
    (Members.mk (mapMembers f (keptMembers n keep ms)) false).withDefault name b decode =
      some (if keep [name] then a else b) := by
  rw [Members.withDefault_mapMembers, lookup_keptMembers, hlookup]
  split
  · exact h
  · rfl

theorem withDefault_kept_optional {encode : α → Json} {o : Option α}
    (hlookup : ms.lookup name = o.map encode)
    (h : ∀ a ∈ o, decode (((encode a).kept n (beneath name keep)).mapNumbers f) = some a)
    (hnull : decode .null = none) :
    (Members.mk (mapMembers f (keptMembers n keep ms)) false).withDefault name none
      (asOptional? decode) = some (if keep [name] then o else none) := by
  rw [Members.withDefault_mapMembers, lookup_keptMembers, hlookup]
  cases o with
  | none => cases keep [name] <;> rfl
  | some a =>
    split
    · exact asOptional?_of_some hnull (h a rfl)
    · rfl

end

end Json

namespace Toml

theorem entriesToJson_append (es es' : Entries) :
    entriesToJson (es ++ es') = entriesToJson es ++ entriesToJson es' := by
  induction es with
  | nil => rfl
  | cons e es ih => rw [List.cons_append, entriesToJson, ih, entriesToJson, List.cons_append]

/-- The lines and tables at kept paths, down to `n` levels. -/
def Sheet.kept : Nat → (List String → Bool) → Sheet → Sheet
  | n + 1, keep, .mk lines parts =>
    .mk (lines.filter fun l => keep [l.1]) (parts.filterMap fun p =>
      if keep [p.1] then some (p.1, p.2.kept n (beneath p.1 keep)) else none)
  | 0, _, s => s

def Sheet.members (s : Sheet) : List (String × Json) := entriesToJson s.entries

section

variable {n : Nat} {keep : List String → Bool}

theorem Leaf.kept_value (l : Leaf) : l.value.toJson.kept n keep = l.value.toJson := by
  cases l <;> cases n <;> rfl

theorem keptMembers_lines (lines : List (String × Leaf)) :
    entriesToJson ((lines.filter fun l => keep [l.1]).map fun l => (l.1, l.2.value)) =
      Json.keptMembers n keep (entriesToJson (lines.map fun l => (l.1, l.2.value))) := by
  induction lines with
  | nil => rfl
  | cons l lines ih =>
    rw [List.filter_cons, List.map_cons, entriesToJson, Json.keptMembers_cons, ← ih]
    cases keep [l.1] with
    | true => simp only [if_true, List.map_cons, entriesToJson, Leaf.kept_value, List.singleton_append]
    | false => rfl

theorem keptMembers_parts
    (h : ∀ keep (s : Sheet), Json.object (s.kept n keep).members = (Json.object s.members).kept n keep)
    (parts : List (String × Sheet)) :
    entriesToJson (partEntries (parts.filterMap fun p =>
      if keep [p.1] then some (p.1, p.2.kept n (beneath p.1 keep)) else none)) =
      Json.keptMembers n keep (entriesToJson (partEntries parts)) := by
  induction parts with
  | nil => rfl
  | cons p parts ih =>
    obtain ⟨key, part⟩ := p
    rw [List.filterMap_cons, partEntries, entriesToJson, Json.keptMembers_cons, ← ih, toJson]
    have hpart := h (beneath key keep) part
    rw [Sheet.members, Sheet.members] at hpart
    cases hkey : keep [key] with
    | true => simp only [if_true, partEntries, entriesToJson, toJson, hpart, List.singleton_append]
    | false => rfl

/-- Pruning a document prunes its JSON terms. -/
theorem object_kept : ∀ (n : Nat) (keep : List String → Bool) (s : Sheet),
    Json.object (s.kept n keep).members = (Json.object s.members).kept n keep
  | 0, keep, s => by rw [Json.kept_zero, Sheet.kept]
  | n + 1, keep, .mk lines parts => by
    rw [Sheet.kept, Sheet.members, Sheet.entries, entriesToJson_append, keptMembers_lines (n := n),
      keptMembers_parts (object_kept n), Sheet.members, Sheet.entries, entriesToJson_append,
      Json.kept_object]
    rw [Json.keptMembers, Json.keptMembers, Json.keptMembers, List.filterMap_append]

theorem Sheet.kept_all : ∀ (n : Nat) (s : Sheet), s.kept n (fun _ => true) = s
  | 0, s => by rw [kept]
  | n + 1, .mk lines parts => by
    have hlines : lines.filter (fun _ => true) = lines := List.filter_eq_self.2 fun _ _ => rfl
    have hself : (fun p : String × Sheet => some (p.1, p.2.kept n (fun _ => true))) = some :=
      funext fun p => congrArg (fun s => some (p.1, s)) (kept_all n p.2)
    rw [kept, hlines]
    exact congrArg (Sheet.mk lines) ((congrArg (List.filterMap · parts) hself).trans List.filterMap_some)

theorem partsSound_iff {parts : List (String × Sheet)} {path : List String} :
    PartsSound parts path ↔ ∀ p ∈ parts,
      (isBare p.1 = true ∧ path.length < nestingLimit) ∧ p.2.IsSound (path ++ [p.1]) := by
  induction parts with
  | nil => simp [PartsSound]
  | cons p parts ih =>
    obtain ⟨key, part⟩ := p
    simp only [PartsSound, ih, List.forall_mem_cons, and_assoc]

theorem isSound_kept : ∀ (n : Nat) (keep : List String → Bool) (s : Sheet) {path : List String},
    s.IsSound path → (s.kept n keep).IsSound path
  | 0, keep, s, path, h => by rw [Sheet.kept]; exact h
  | n + 1, keep, .mk lines parts, path, ⟨hkeys, hlines, hparts⟩ => by
    rw [partsSound_iff] at hparts
    refine ⟨?_, fun l hl => hlines l (List.mem_filter.1 hl).1, partsSound_iff.2 fun p hp => ?_⟩
    · refine hkeys.sublist (List.Sublist.append (List.filter_sublist.map _) ?_)
      refine map_fst_filterMap_sublist (fun p p' hp' => ?_) parts
      split at hp'
      · cases hp'
        rfl
      · cases hp'
    · obtain ⟨p', hp', hsome⟩ := List.mem_filterMap.1 hp
      split at hsome
      · cases hsome
        exact ⟨(hparts p' hp').1, isSound_kept n _ p'.2 (hparts p' hp').2⟩
      · cases hsome

end

end Toml

end Folio
