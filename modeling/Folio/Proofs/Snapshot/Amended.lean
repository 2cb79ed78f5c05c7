import Mathlib.Data.List.Nodup
import Mathlib.Logic.Relation
import Folio.Proofs.Snapshot.Records
import Folio.Table.Marker
/-!
A fetched document may say more than is decoded, or leave out what is taken for granted. Members that a
structure does not have may be added to it, and members that hold their default may be left out, at any
depth: the document is decoded to the same (`decode?_amended`).
-/
set_option autoImplicit false

namespace Folio.Snapshot

open Json (Members)

/-- One change to a value that is decoded as an entry inside at most `depth` levels: a member that the
structure does not have is added to an object, or one that is decoded to its default is taken out of it,
here or in what is decoded from it. -/
inductive Amended : Nat → Entry → Json → Json → Prop where
  | added {depth : Nat} {r : Record} {before behind : List (String × Json)} {name : String} (v : Json)
      (hname : name ∉ r.names) :
      Amended depth (.one r) (.object (before ++ behind)) (.object (before ++ (name, v) :: behind))
  | dropped {depth : Nat} {r : Record} {before behind : List (String × Json)} {name : String}
      {e : Entry} {v : Json} (hmember : (name, e) ∈ r.members)
      (hv : e.decode? (depth - 1) v = some e.default) :
      Amended depth (.one r) (.object (before ++ (name, v) :: behind)) (.object (before ++ behind))
  | member {depth : Nat} {r : Record} {before behind : List (String × Json)} {name : String}
      {e : Entry} {v v' : Json} (hmember : (name, e) ∈ r.members) (h : Amended (depth - 1) e v v') :
      Amended depth (.one r) (.object (before ++ (name, v) :: behind))
        (.object (before ++ (name, v') :: behind))
  | place {depth : Nat} {r : Record} {before behind : List Json} {name : String} {e : Entry}
      {v v' : Json} (hmember : r.members[before.length]? = some (name, e))
      (h : Amended (depth - 1) e v v') :
      Amended depth (.one r) (.array (before ++ v :: behind)) (.array (before ++ v' :: behind))
  | present {depth : Nat} {r : Record} {v v' : Json} (h : Amended depth (.one r) v v') :
      Amended depth (.optional r) v v'
  | item {depth : Nat} {r : Record} {before behind : List Json} {v v' : Json}
      (h : Amended (depth - 1) (.one r) v v') :
      Amended depth (.list r) (.array (before ++ v :: behind)) (.array (before ++ v' :: behind))

section

variable {depth : Nat} {names : List String} {ms : Members}

theorem membersAt?_object {members : List (String × Json)} :
    membersAt? depth names (.object members) = some ms ↔
      depth ≠ 0 ∧ ((members.filter fun m => names.contains m.1).map (·.1)).Nodup ∧
        ⟨members.filter fun m => names.contains m.1, false⟩ = ms := by
  by_cases hdepth : depth = 0
  · simp [membersAt?, hdepth]
  · simp [membersAt?, hdepth, Json.members?, Json.Rules.members?]

theorem membersAt?_array {items : List Json} :
    membersAt? depth names (.array items) = some ms ↔
      depth ≠ 0 ∧ items.length ≤ names.length ∧ ⟨names.zip items, true⟩ = ms := by
  by_cases hdepth : depth = 0
  · simp [membersAt?, hdepth]
  · simp [membersAt?, hdepth, Json.members?, Json.Rules.members?, Json.Rules.strict]

end

section

variable {before behind : List (String × Json)} {name key : String} {v v' : Json}

theorem lookup_eq_none {ms : List (String × Json)} (h : name ∉ ms.map (·.1)) : ms.lookup name = none :=
  List.lookup_eq_none_iff.2 fun _ hm => bne_iff_ne.2 fun hname => h (hname ▸ List.mem_map_of_mem hm)

theorem lookup_middle_of_ne (h : key ≠ name) :
    (before ++ (name, v) :: behind).lookup key = (before ++ behind).lookup key := by
  rw [List.lookup_append, List.lookup_append, List.lookup_cons, beq_false_of_ne h]

theorem nodup_middle : ((before ++ (name, v) :: behind).map (·.1)).Nodup ↔
    name ∉ (before ++ behind).map (·.1) ∧ ((before ++ behind).map (·.1)).Nodup := by
  rw [List.map_append, List.map_cons, List.nodup_middle, List.nodup_cons, ← List.map_append]

theorem lookup_middle (h : name ∉ (before ++ behind).map (·.1)) :
    (before ++ (name, v) :: behind).lookup name = some v := by
  rw [List.map_append] at h
  rw [List.lookup_append, lookup_eq_none fun hmem => h (List.mem_append_left _ hmem),
    List.lookup_cons_self, Option.none_or]

end

namespace Record

variable {r : Record} {depth : Nat}

theorem entry_unique {name : String} {e e' : Entry} (h : (name, e) ∈ r.members)
    (h' : (name, e') ∈ r.members) : e = e' :=
  congrArg Prod.snd (List.inj_on_of_nodup_map r.nodup_names h h' rfl)

theorem Carries.refl (ms : Members) : r.Carries depth ms ms := fun _ _ => .refl _

theorem carries_of_lookup {ms ms' : Members} {name : String} {e : Entry}
    (hmember : (name, e) ∈ r.members)
    (hother : ∀ key, key ≠ name → ms.entries.lookup key = ms'.entries.lookup key)
    (hself : Upheld (e.read? depth ms name) (e.read? depth ms' name)) : r.Carries depth ms ms' := by
  rintro ⟨key, e'⟩ hmember'
  by_cases hkey : key = name
  · subst hkey
    obtain rfl := entry_unique hmember hmember'
    exact hself
  · simp only [Entry.read?, Members.withDefault, Members.get?]
    rw [hother key hkey]
    exact .refl _

section

variable {before behind : List (String × Json)} {name : String} {e : Entry} {v v' : Json}
  {positional : Bool} (hmember : (name, e) ∈ r.members)
  (hname : name ∉ (before ++ behind).map (·.1))

include hmember hname

theorem carries_dropped (hv : e.decode? (depth - 1) v = some e.default) :
    r.Carries depth ⟨before ++ (name, v) :: behind, positional⟩ ⟨before ++ behind, positional⟩ := by
  refine carries_of_lookup hmember (fun key hkey => lookup_middle_of_ne hkey) fun a ha => ?_
  simp only [Entry.read?, Members.withDefault, Members.get?] at ha ⊢
  rw [lookup_middle hname] at ha
  rw [lookup_eq_none hname]
  exact hv ▸ ha

theorem carries_replaced (hv : Upheld (e.decode? (depth - 1) v) (e.decode? (depth - 1) v')) :
    r.Carries depth ⟨before ++ (name, v) :: behind, positional⟩
      ⟨before ++ (name, v') :: behind, positional⟩ := by
  refine carries_of_lookup hmember
    (fun key hkey => (lookup_middle_of_ne hkey).trans (lookup_middle_of_ne hkey).symm) ?_
  simp only [Entry.read?, Members.withDefault, Members.get?]
  rw [lookup_middle hname, lookup_middle hname]
  exact hv

end

end Record

section

variable {names : List String} {name : String}

theorem filter_known {before behind : List (String × Json)} (h : name ∈ names) (v : Json) :
    ((before ++ (name, v) :: behind).filter fun m => names.contains m.1) =
      (before.filter fun m => names.contains m.1) ++
        (name, v) :: behind.filter fun m => names.contains m.1 := by
  have hcontains : names.contains (name, v).1 = true := List.contains_iff_mem.2 h
  rw [List.filter_append, List.filter_cons, if_pos hcontains]

theorem membersAt?_middle {depth : Nat} {ms : Members} {before behind : List (String × Json)}
    (h : name ∈ names) (v : Json) :
    membersAt? depth names (.object (before ++ (name, v) :: behind)) = some ms ↔
      name ∉ ((before.filter fun m => names.contains m.1) ++
        behind.filter fun m => names.contains m.1).map (·.1) ∧
      membersAt? depth names (.object (before ++ behind)) =
        some ⟨(before ++ behind).filter fun m => names.contains m.1, false⟩ ∧
      ⟨(before.filter fun m => names.contains m.1) ++
        (name, v) :: behind.filter fun m => names.contains m.1, false⟩ = ms := by
  rw [membersAt?_object, membersAt?_object, filter_known h, nodup_middle, List.filter_append]
  tauto

theorem zip_middle {before : List Json} (h : names[before.length]? = some name) (v : Json)
    (behind : List Json) :
    names.zip (before ++ v :: behind) = (names.take before.length).zip before ++
      (name, v) :: (names.drop (before.length + 1)).zip behind := by
  obtain ⟨hlt, hname⟩ := List.getElem?_eq_some_iff.1 h
  have hnames : names = names.take before.length ++ name :: names.drop (before.length + 1) := by
    rw [← hname, ← List.drop_eq_getElem_cons hlt, List.take_append_drop]
  have hlength : (names.take before.length).length = before.length :=
    List.length_take_of_le (Nat.le_of_lt hlt)
  conv_lhs => rw [hnames]
  rw [List.zip_append hlength, List.zip_cons_cons]

theorem not_mem_zip {before behind : List Json} (h : names[before.length]? = some name)
    (hnodup : names.Nodup) : name ∉ ((names.take before.length).zip before ++
      (names.drop (before.length + 1)).zip behind).map (·.1) := by
  obtain ⟨hlt, hname⟩ := List.getElem?_eq_some_iff.1 h
  rw [← List.take_append_drop before.length names, List.drop_eq_getElem_cons hlt, hname,
    List.nodup_middle, List.nodup_cons] at hnodup
  intro hmem
  obtain ⟨m, hm, rfl⟩ := List.mem_map.1 hmem
  refine hnodup.1 ?_
  rcases List.mem_append.1 hm with hm | hm
  · exact List.mem_append_left _ (List.of_mem_zip hm).1
  · exact List.mem_append_right _ (List.of_mem_zip hm).1

end

theorem Amended.ne_null {depth : Nat} {r : Record} {v v' : Json} (h : Amended depth (.one r) v v') :
    v ≠ .null ∧ v' ≠ .null := by
  cases h <;> exact ⟨nofun, nofun⟩

theorem asOptional?_of_ne_null {α : Type} {f : Json → Option α} {v : Json} (hv : v ≠ .null) :
    Json.asOptional? f v = (f v).map some := by
  rw [Json.asOptional?]
  exact hv

theorem upheld_asOptional? {α : Type} {f : Json → Option α} {v v' : Json} (hv : v ≠ .null)
    (hv' : v' ≠ .null) (h : Upheld (f v) (f v')) :
    Upheld (Json.asOptional? f v) (Json.asOptional? f v') := by
  rw [asOptional?_of_ne_null hv, asOptional?_of_ne_null hv']
  intro a ha
  obtain ⟨b, hb, rfl⟩ := Option.map_eq_some_iff.1 ha
  rw [h b hb, Option.map_some]

theorem upheld_mapM {α : Type} {f : Json → Option α} {before behind : List Json} {v v' : Json}
    (h : Upheld (f v) (f v')) :
    Upheld ((before ++ v :: behind).mapM f) ((before ++ v' :: behind).mapM f) := by
  rw [List.mapM_append, List.mapM_append, List.mapM_cons, List.mapM_cons]
  exact (Upheld.refl _).bind fun _ => (h.bind fun _ => .refl _).bind fun _ => .refl _

theorem Amended.upheld {depth : Nat} {e : Entry} {j j' : Json} (h : Amended depth e j j') :
    Upheld (e.decode? depth j) (e.decode? depth j') := by
  -- By the place of the change. A decoder sees no unknown members, and it sees no name twice.
  induction h with
  | added v hname =>
    refine Record.upheld fun ms hms => ⟨ms, ?_, .refl ms⟩
    rw [membersAt?_object] at hms ⊢
    rw [List.filter_append, List.filter_cons_of_neg (by simpa using hname), ← List.filter_append]
    exact hms
  | @dropped _ r _ _ name _ _ hmember hv =>
    refine Record.upheld fun ms hms => ?_
    have hknown : name ∈ r.names := List.mem_map_of_mem hmember
    obtain ⟨hname, hrest, rfl⟩ := (membersAt?_middle hknown _).1 hms
    refine ⟨_, hrest, ?_⟩
    rw [List.filter_append]
    exact Record.carries_dropped hmember hname hv
  | @member _ r _ _ name _ _ _ hmember h ih =>
    refine Record.upheld fun ms hms => ?_
    have hknown : name ∈ r.names := List.mem_map_of_mem hmember
    obtain ⟨hname, hrest, rfl⟩ := (membersAt?_middle hknown _).1 hms
    exact ⟨_, (membersAt?_middle hknown _).2 ⟨hname, hrest, rfl⟩,
      Record.carries_replaced hmember hname ih⟩
  | @place _ r before _ name _ _ _ hmember h ih =>
    refine Record.upheld fun ms hms => ?_
    obtain ⟨hdepth, hlength, rfl⟩ := membersAt?_array.1 hms
    have hname : r.names[before.length]? = some name := by
      rw [Record.names, List.getElem?_map, hmember]
      rfl
    refine ⟨_, membersAt?_array.2 ⟨hdepth, ?_, rfl⟩, ?_⟩
    · rw [List.length_append, List.length_cons] at hlength ⊢
      exact hlength
    · rw [zip_middle hname, zip_middle hname]
      exact Record.carries_replaced (List.mem_of_getElem? hmember)
        (not_mem_zip hname r.nodup_names) ih
  | present h ih => exact upheld_asOptional? h.ne_null.1 h.ne_null.2 ih
  | item h ih =>
    simp only [Entry.decode?, listAt?]
    split
    · exact .refl _
    · exact upheld_mapM ih

mutual

def Element.everyCell : Element → List Cell
  | .mk _ _ _ none => []
  | .mk _ _ _ (some t) => t.everyCell

def Table.everyCell : Table → List Cell
  | .mk _ _ rows => rowsCells rows

def Row.everyCell : Row → List Cell
  | .mk _ _ cells => cellsCells cells

def Cell.everyCell : Cell → List Cell
  | .mk start stop content => .mk start stop content :: elementsCells content

def elementsCells : List Element → List Cell
  | [] => []
  | e :: es => e.everyCell ++ elementsCells es

def rowsCells : List Row → List Cell
  | [] => []
  | r :: rs => r.everyCell ++ rowsCells rs

def cellsCells : List Cell → List Cell
  | [] => []
  | c :: cs => c.everyCell ++ cellsCells cs

end

def inlets (s : Snapshot) : List (Nat × Bool) :=
  (elementsCells s.content).map fun c => (c.contentStart, c.isBlank)

/-- A document that is decoded is decoded to the same after any number of changes, each of which adds
a member that the structure around it does not have, or takes one out that holds its default; so its
markers, its tables and its cells are the same. -/
theorem decode?_amended {j j' : Json} {s : Snapshot}
    (h : Relation.ReflTransGen (Amended Json.depthLimit (.one .document)) j j')
    (hs : decode? j = some s) :
    decode? j' = some s ∧
      (∀ fingerprint, (decode? j').map (·.markers fingerprint) = some (s.markers fingerprint)) ∧
      (decode? j').map tables = some s.tables ∧ (decode? j').map inlets = some s.inlets := by
  have hsame : decode? j' = some s := by
    rw [decode?_eq] at hs ⊢
    induction h with
    | refl => exact hs
    | tail _ hchange ih => exact hchange.upheld s ih
  rw [hsame]
  exact ⟨rfl, fun _ => rfl, rfl, rfl⟩

def oneCell (members : List (String × Json)) : Json :=
  .object [("body", .object [("content", .array [.object [("endIndex", .nat 6),
    ("table", .object [("tableRows", .array [.array [.nat 2, .nat 5, .array [.object members]]])])]])])]

theorem amended_oneCell {ms ms' : List (String × Json)}
    (h : Amended (Json.depthLimit - 8) (.one .cell) (.object ms) (.object ms')) :
    Amended Json.depthLimit (.one .document) (oneCell ms) (oneCell ms') := by
  have hrow : Amended (Json.depthLimit - 6) (.one .row) (.array [.nat 2, .nat 5, .array [.object ms]])
      (.array [.nat 2, .nat 5, .array [.object ms']]) :=
    @Amended.place _ _ [.nat 2, .nat 5] [] "tableCells" _ _ _ rfl (@Amended.item _ _ [] [] _ _ h)
  have htable := @Amended.member (Json.depthLimit - 4) .table [] [] "tableRows" _ _ _
    (by simp [Record.members]) (@Amended.item _ _ [] [] _ _ hrow)
  have helement := @Amended.member (Json.depthLimit - 3) .element [("endIndex", .nat 6)] [] "table" _ _ _
    (by simp [Record.members]) (.present htable)
  have hbody := @Amended.member (Json.depthLimit - 1) .body [] [] "content" _ _ _
    (by simp [Record.members]) (@Amended.item _ _ [] [] _ _ helement)
  exact @Amended.member _ .document [] [] "body" _ _ _ (by simp [Record.members]) hbody

theorem decode?_amended_styledCell :
    Relation.ReflTransGen (Amended Json.depthLimit (.one .document))
        (oneCell [("startIndex", .nat 3), ("content", .array [])])
        (oneCell [("tableCellStyle", .unreadable), ("startIndex", .nat 3)]) ∧
      decode? (oneCell [("startIndex", .nat 3), ("content", .array [])]) =
        some ⟨"", "", [.mk 0 6 none (some (.mk 0 0 [.mk 2 5 [.mk 3 0 []]]))]⟩ ∧
      decode? (oneCell [("tableCellStyle", .unreadable), ("startIndex", .nat 3)]) =
        some ⟨"", "", [.mk 0 6 none (some (.mk 0 0 [.mk 2 5 [.mk 3 0 []]]))]⟩ ∧
      (decode? (oneCell [("tableCellStyle", .unreadable), ("startIndex", .nat 3)])).map inlets =
        some [(4, true)] := by
  have hadded := amended_oneCell (@Amended.added (Json.depthLimit - 8) .cell []
    [("startIndex", .nat 3), ("content", .array [])] "tableCellStyle" .unreadable (by decide))
  have hdropped := amended_oneCell (@Amended.dropped (Json.depthLimit - 8) .cell
    [("tableCellStyle", .unreadable), ("startIndex", .nat 3)] [] "content" (.list .element) (.array [])
    (by simp [Record.members]) rfl)
  have hs : decode? (oneCell [("startIndex", .nat 3), ("content", .array [])]) =
      some ⟨"", "", [.mk 0 6 none (some (.mk 0 0 [.mk 2 5 [.mk 3 0 []]]))]⟩ := rfl
  have hchanges := Relation.ReflTransGen.tail (.single hadded) hdropped
  obtain ⟨hsame, -, -, hinlets⟩ := decode?_amended hchanges hs
  exact ⟨hchanges, hs, hsame, hinlets⟩

end Folio.Snapshot
