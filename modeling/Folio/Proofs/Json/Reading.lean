import Mathlib.Data.List.DropRight
import Folio.Proofs.Json.Literals
/-!
Written JSON is read again. A text of a value may have blanks around its items and members
(`spread`); the compact and the indented text are two layouts of it. A reader of such a text finds
the value, with each number replaced by what is read from the text of that number.
-/
set_option autoImplicit false

namespace Folio.Json

section

variable {cs rest b : List Char} {c : Char}

theorem skipSpace_append (hb : ∀ c ∈ b, isSpace c = true) (cs : List Char) :
    skipSpace (b ++ cs) = skipSpace cs :=
  List.dropWhile_append_of_pos hb

theorem skipSpace_cons (hc : isSpace c = false) (cs : List Char) : skipSpace (c :: cs) = c :: cs :=
  List.dropWhile_cons_of_neg (by simp [hc])

theorem skipSpace_skipSpace (cs : List Char) : skipSpace (skipSpace cs) = skipSpace cs :=
  List.dropWhile_idempotent isSpace cs

theorem StopsNumber.append_blank (hb : ∀ c ∈ b, isSpace c = true) (h : StopsNumber rest) :
    StopsNumber (b ++ rest) := by
  cases b with
  | nil => exact h
  | cons c b =>
    intro d hd
    cases hd
    have hc := hb c List.mem_cons_self
    simp only [isSpace, Bool.or_eq_true, beq_iff_eq] at hc
    rcases hc with ((rfl | rfl) | rfl) | rfl <;> decide

theorem stopsNumber_cons (hc : goesOn c = false) : StopsNumber (c :: rest) := by
  intro d hd
  cases hd
  exact hc

end

theorem nibble?_hexDigit {n : Nat} (h : n < 16) : Text.nibble? (Text.hexDigit n) = some n := by
  revert n
  decide

theorem unit?_hexOfByte {n : Nat} (h : n < 256) (rest : List Char) :
    unit? ('0' :: '0' :: (Text.hexOfByte (UInt8.ofNat n) ++ rest)) = some (n, rest) := by
  have hbyte := UInt8.toNat_ofNat_of_lt' h
  have hhigh := nibble?_hexDigit (n := n / 16) (by omega)
  have hlow := nibble?_hexDigit (n := n % 16) (by omega)
  have hzero : Text.nibble? '0' = some 0 := rfl
  have hsum : ((0 * 16 + 0) * 16 + n / 16) * 16 + n % 16 = n := by omega
  simp only [Text.hexOfByte, hbyte, List.cons_append, List.nil_append, unit?, hzero, hhigh, hlow, hsum]

theorem readString_plain {c : Char} (hquote : c ≠ '"') (hslash : c ≠ '\\') (hc : 32 ≤ c.toNat)
    (fuel : Nat) (rest : List Char) :
    readString (fuel + 1) (c :: rest) = (readString fuel rest).map fun r => (some c :: r.1, r.2) := by
  rw [readString.eq_def]
  dsimp only
  split
  · rename_i heq
    cases heq
  · rename_i heq
    exact absurd (List.cons.inj heq).1 hquote
  · rename_i heq
    exact absurd (List.cons.inj heq).1 hslash
  · rename_i heq
    exact absurd (List.cons.inj heq).1 hslash
  · rename_i heq
    cases heq
    rw [if_neg]
    simp only [Bool.or_eq_true, beq_iff_eq, decide_eq_true_eq, not_or]
    exact ⟨hslash, by omega⟩

theorem readString_escapeChar (c : Char) (fuel : Nat) (rest : List Char) :
    readString (fuel + 1) (escapeChar c ++ rest) =
      (readString fuel rest).map fun r => (some c :: r.1, r.2) := by
  rw [escapeChar.eq_def]
  split
  case h_8 hquote hslash _ _ _ _ _ =>
    split
    · rename_i hcontrol
      have hunit := unit?_hexOfByte (n := c.toNat) (by omega) rest
      have hescaped : escaped c.toNat rest = (some c, rest) := by
        rw [escaped.eq_def, if_pos (by simp only [Bool.or_eq_true, decide_eq_true_eq]; omega), Char.ofNat_toNat]
      simp only [List.cons_append, readString, hunit, hescaped]
    · rename_i hplain
      exact readString_plain hquote hslash (by omega) fuel rest
  all_goals rfl

theorem escapeChar_ne_nil (c : Char) : escapeChar c ≠ [] := by
  rw [escapeChar.eq_def]
  split <;> first | exact List.cons_ne_nil _ _ | (split <;> exact List.cons_ne_nil _ _)

theorem length_le_flatMap_escapeChar (s : List Char) : s.length ≤ (s.flatMap escapeChar).length := by
  induction s with
  | nil => exact Nat.le_refl 0
  | cons c s ih =>
    have hc := List.length_pos_iff.2 (escapeChar_ne_nil c)
    simp only [List.flatMap_cons, List.length_append, List.length_cons]
    omega

theorem readString_flatMap (s : List Char) (rest : List Char) (fuel : Nat) (h : s.length < fuel) :
    readString fuel (s.flatMap escapeChar ++ '"' :: rest) = some (s.map some, rest) := by
  induction s generalizing fuel with
  | nil =>
    cases fuel with
    | zero => cases h
    | succ fuel => rfl
  | cons c s ih =>
    cases fuel with
    | zero => cases h
    | succ fuel =>
      rw [List.flatMap_cons, List.append_assoc, readString_escapeChar,
        ih fuel (Nat.lt_of_succ_lt_succ h)]
      rfl

theorem textOf?_map_some (s : List Char) : textOf? (s.map some) = some (String.ofList s) := by
  have hall : (s.map some).all Option.isSome = true := by simp
  have hself : (s.map some).filterMap id = s := by simp
  rw [textOf?, if_pos hall, hself]

theorem readString_quoted (s : String) (rest : List Char) :
    readString ((s.toList.flatMap escapeChar ++ '"' :: rest).length + 1)
      (s.toList.flatMap escapeChar ++ '"' :: rest) = some (s.toList.map some, rest) := by
  have hle := length_le_flatMap_escapeChar s.toList
  refine readString_flatMap s.toList rest _ ?_
  rw [List.length_append]
  omega

theorem textOf?_toList (s : String) : textOf? (s.toList.map some) = some s := by
  rw [textOf?_map_some, String.ofList_toList]

mutual

def mapNumbers (f : Number → Number) : Json → Json
  | .number n => .number (f n)
  | .array items => .array (mapItems f items)
  | .object members => .object (mapMembers f members)
  | v => v

def mapItems (f : Number → Number) : List Json → List Json
  | [] => []
  | v :: vs => v.mapNumbers f :: mapItems f vs

def mapMembers (f : Number → Number) : List (String × Json) → List (String × Json)
  | [] => []
  | (name, v) :: ms => (name, v.mapNumbers f) :: mapMembers f ms

end

mutual

/-- Whether a value can be written, and all its numbers read again. -/
def isLegible : Json → Bool
  | .unreadable => false
  | .number n => n.again?.isSome
  | .array items => allLegible items
  | .object members => membersLegible members
  | _ => true

def allLegible : List Json → Bool
  | [] => true
  | v :: vs => v.isLegible && allLegible vs

def membersLegible : List (String × Json) → Bool
  | [] => true
  | (_, v) :: ms => v.isLegible && membersLegible ms

end

def Number.again (n : Number) : Number := n.again?.getD n

section

variable {f : Number → Number}

theorem mapItems_eq_map (items : List Json) : mapItems f items = items.map (mapNumbers f) := by
  induction items with
  | nil => rfl
  | cons v vs ih => rw [mapItems, ih, List.map_cons]

theorem mapMembers_eq_map (members : List (String × Json)) :
    mapMembers f members = members.map fun m => (m.1, m.2.mapNumbers f) := by
  induction members with
  | nil => rfl
  | cons m ms ih => rw [mapMembers, ih, List.map_cons]

theorem allLegible_iff (items : List Json) : allLegible items = true ↔ ∀ v ∈ items, v.isLegible = true := by
  induction items with
  | nil => simp [allLegible]
  | cons v vs ih => simp [allLegible, ih]

theorem membersLegible_iff (members : List (String × Json)) :
    membersLegible members = true ↔ ∀ m ∈ members, m.2.isLegible = true := by
  induction members with
  | nil => simp [membersLegible]
  | cons m ms ih => simp [membersLegible, ih]

end

mutual

theorem mapNumbers_id : ∀ v : Json, v.mapNumbers id = v
  | .null | .bool _ | .string _ | .unreadable | .number _ => rfl
  | .array items => by rw [mapNumbers, mapItems_id items]
  | .object members => by rw [mapNumbers, mapMembers_id members]

theorem mapItems_id : ∀ items : List Json, mapItems id items = items
  | [] => rfl
  | v :: vs => by rw [mapItems, mapNumbers_id v, mapItems_id vs]

theorem mapMembers_id : ∀ members : List (String × Json), mapMembers id members = members
  | [] => rfl
  | (name, v) :: ms => by rw [mapMembers, mapNumbers_id v, mapMembers_id ms]

end

/-- Where blanks stand in a text: before each item, each member and each closing bracket, by their
depth, and behind a colon. -/
structure Layout where
  gap : Nat → List Char
  colon : List Char
  gap_blank : ∀ depth, ∀ c ∈ gap depth, isSpace c = true
  colon_blank : ∀ c ∈ colon, isSpace c = true

mutual

def spread (l : Layout) (depth : Nat) : Json → List Char
  | .array [] => ['[', ']']
  | .array items => '[' :: (spreadItems l (depth + 1) items ++ l.gap depth ++ [']'])
  | .object [] => ['\x7b', '\x7d']
  | .object members => '\x7b' :: (spreadMembers l (depth + 1) members ++ l.gap depth ++ ['\x7d'])
  | v => v.write

def spreadItems (l : Layout) (depth : Nat) : List Json → List Char
  | [] => []
  | [v] => l.gap depth ++ v.spread l depth
  | v :: vs => l.gap depth ++ (v.spread l depth ++ ',' :: spreadItems l depth vs)

def spreadMembers (l : Layout) (depth : Nat) : List (String × Json) → List Char
  | [] => []
  | [(name, v)] => l.gap depth ++ (quoted name ++ ':' :: (l.colon ++ v.spread l depth))
  | (name, v) :: ms =>
    l.gap depth ++
      (quoted name ++ ':' :: (l.colon ++ (v.spread l depth ++ ',' :: spreadMembers l depth ms)))

end

def Layout.compact : Layout := ⟨fun _ => [], [], by simp, by simp⟩

def Layout.lines : Layout where
  gap := newLine
  colon := [' ']
  gap_blank := by
    intro depth c hc
    rcases List.mem_cons.1 hc with rfl | hc
    · rfl
    · rw [List.eq_of_mem_replicate hc]
      rfl
  colon_blank := by simp [isSpace]

mutual

theorem write_eq_spread (depth : Nat) : ∀ v : Json, v.write = v.spread .compact depth
  | .null | .bool _ | .string _ | .unreadable | .number _ => rfl
  | .array [] | .object [] => rfl
  | .array (v :: vs) => by
    rw [write, spread, writeItems_eq_spread (depth + 1) (v :: vs)]
    · simp [Layout.compact]
    · simp
  | .object (m :: ms) => by
    rw [write, spread, writeMembers_eq_spread (depth + 1) (m :: ms)]
    · simp [Layout.compact]
    · simp

theorem writeItems_eq_spread (depth : Nat) :
    ∀ items : List Json, writeItems items = spreadItems .compact depth items
  | [] => rfl
  | [v] => by rw [writeItems, spreadItems, write_eq_spread depth v]; rfl
  | v :: w :: vs => by
    rw [writeItems, spreadItems, write_eq_spread depth v, writeItems_eq_spread depth (w :: vs)]
    · rfl
    all_goals simp

theorem writeMembers_eq_spread (depth : Nat) :
    ∀ members : List (String × Json), writeMembers members = spreadMembers .compact depth members
  | [] => rfl
  | [(name, v)] => by rw [writeMembers, spreadMembers, write_eq_spread depth v]; rfl
  | (name, v) :: m :: ms => by
    rw [writeMembers, spreadMembers, write_eq_spread depth v,
      writeMembers_eq_spread depth (m :: ms)]
    · rfl
    all_goals simp

end

mutual

theorem indented_eq_spread (depth : Nat) : ∀ v : Json, v.indented depth = v.spread .lines depth
  | .null | .bool _ | .string _ | .unreadable | .number _ => rfl
  | .array [] | .object [] => rfl
  | .array (v :: vs) => by
    rw [indented, spread, indentedItems_eq_spread (depth + 1) (v :: vs)]
    · rfl
    all_goals simp
  | .object (m :: ms) => by
    rw [indented, spread, indentedMembers_eq_spread (depth + 1) (m :: ms)]
    · rfl
    all_goals simp

theorem indentedItems_eq_spread (depth : Nat) :
    ∀ items : List Json, indentedItems depth items = spreadItems .lines depth items
  | [] => rfl
  | [v] => by rw [indentedItems, spreadItems, indented_eq_spread depth v]; rfl
  | v :: w :: vs => by
    rw [indentedItems, spreadItems, indented_eq_spread depth v,
      indentedItems_eq_spread depth (w :: vs)]
    · rfl
    all_goals simp

theorem indentedMembers_eq_spread (depth : Nat) :
    ∀ members : List (String × Json),
      indentedMembers depth members = spreadMembers .lines depth members
  | [] => rfl
  | [(name, v)] => by rw [indentedMembers, spreadMembers, indented_eq_spread depth v]; rfl
  | (name, v) :: m :: ms => by
    rw [indentedMembers, spreadMembers, indented_eq_spread depth v,
      indentedMembers_eq_spread depth (m :: ms)]
    · rfl
    all_goals simp

end

section

variable {l : Layout} {b cs rest : List Char} {c : Char}

theorem readValue_skipSpace (fuel : Nat) (cs : List Char) :
    readValue fuel (skipSpace cs) = readValue fuel cs := by
  cases fuel with
  | zero => rfl
  | succ fuel => rw [readValue, readValue, skipSpace_skipSpace]

theorem readItems_skipSpace (fuel : Nat) (cs : List Char) :
    readItems fuel (skipSpace cs) = readItems fuel cs := by
  cases fuel with
  | zero => rfl
  | succ fuel => rw [readItems, readItems, readValue_skipSpace]

theorem readMembers_skipSpace (fuel : Nat) (cs : List Char) :
    readMembers fuel (skipSpace cs) = readMembers fuel cs := by
  cases fuel with
  | zero => rfl
  | succ fuel => rw [readMembers, readMembers, skipSpace_skipSpace]

theorem readValue_append (hb : ∀ c ∈ b, isSpace c = true) (fuel : Nat) (cs : List Char) :
    readValue fuel (b ++ cs) = readValue fuel cs := by
  rw [← readValue_skipSpace, skipSpace_append hb, readValue_skipSpace]

def isOpening (c : Char) : Bool :=
  ['n', 't', 'f', '"', '[', '\x7b', '-'].contains c || Text.isDigit c

theorem isSpace_of_isOpening (h : isOpening c = true) : isSpace c = false := by
  cases hs : isSpace c with
  | false => rfl
  | true =>
    simp only [isSpace, Bool.or_eq_true, beq_iff_eq] at hs
    rcases hs with ((rfl | rfl) | rfl) | rfl <;> exact absurd h (by decide)

theorem readValue_number {n : Number} {lit : Literal} (hlit : literal? cs = some (lit, rest))
    (hn : lit.value? = some n) (fuel : Nat) :
    readValue (fuel + 1) cs = some (.number n, rest) := by
  obtain ⟨c, cs, rfl⟩ : ∃ c cs', cs = c :: cs' := by
    cases cs with
    | nil => cases hlit
    | cons c cs => exact ⟨c, cs, rfl⟩
  have hhead := head_of_literal? hlit
  have hspace : isSpace c = false := by
    refine isSpace_of_isOpening ?_
    rcases hhead with rfl | hdigit
    · rfl
    · simp [isOpening, hdigit]
  rw [readValue, skipSpace_cons hspace]
  split
  all_goals try
    rename_i heq
    rw [(List.cons.inj heq).1] at hhead
    exact absurd hhead (by decide)
  simp only [hlit, Option.map_some, hn]

theorem readValue_quoted (s : String) (fuel : Nat) (rest : List Char) :
    readValue (fuel + 1) (quoted s ++ rest) = some (.string s, rest) := by
  rw [quoted, List.cons_append, List.append_assoc, List.singleton_append, readValue,
    skipSpace_cons rfl]
  simp only [readString_quoted, Option.map_some, textOf?_toList]

theorem readValue_array {vs : List Json} {fuel : Nat}
    (hhead : ∀ more, skipSpace cs ≠ ']' :: more) (h : readItems fuel cs = some (vs, rest)) :
    readValue (fuel + 1) ('[' :: cs) = some (.array vs, rest) := by
  rw [readValue, skipSpace_cons rfl]
  simp only [readItems_skipSpace, h, Option.map_some]

theorem objectOf_map_some (ms : List (String × Json)) :
    objectOf (ms.map fun m => (some m.1, m.2)) = .object ms := by
  have hall : (ms.map fun m => (some m.1, m.2)).all (·.1.isSome) = true := by simp
  rw [objectOf, if_pos hall, List.filterMap_map]
  exact congrArg Json.object List.filterMap_some

theorem readValue_object {ms : List (String × Json)} {fuel : Nat}
    (hhead : ∀ more, skipSpace cs ≠ '\x7d' :: more)
    (h : readMembers fuel cs = some (ms.map fun m => (some m.1, m.2), rest)) :
    readValue (fuel + 1) ('\x7b' :: cs) = some (.object ms, rest) := by
  rw [readValue, skipSpace_cons rfl]
  simp only [readMembers_skipSpace, h, Option.map_some, objectOf_map_some]

theorem readItems_last {v : Json} {fuel : Nat} (h : readValue fuel cs = some (v, b))
    (hb : skipSpace b = ']' :: rest) : readItems (fuel + 1) cs = some ([v], rest) := by
  rw [readItems, h]
  simp only [hb]

theorem readItems_cons {v : Json} {vs : List Json} {more : List Char} {fuel : Nat}
    (h : readValue fuel cs = some (v, b)) (hb : skipSpace b = ',' :: more)
    (hmore : readItems fuel more = some (vs, rest)) :
    readItems (fuel + 1) cs = some (v :: vs, rest) := by
  rw [readItems, h]
  simp only [hb, hmore, Option.map_some]

theorem readMembers_last {name : String} {v : Json} {fuel : Nat}
    (h : readValue fuel cs = some (v, b)) (hb : skipSpace b = '\x7d' :: rest) :
    readMembers (fuel + 1) (quoted name ++ ':' :: cs) = some ([(some name, v)], rest) := by
  rw [quoted, List.cons_append, List.append_assoc, List.singleton_append, readMembers,
    skipSpace_cons rfl]
  have hcolon : skipSpace (':' :: cs) = ':' :: cs := skipSpace_cons rfl cs
  simp only [readString_quoted, textOf?_toList, hcolon, h, hb]

theorem readMembers_cons {name : String} {v : Json} {ms : List (Option String × Json)}
    {more : List Char} {fuel : Nat} (h : readValue fuel cs = some (v, b))
    (hb : skipSpace b = ',' :: more) (hmore : readMembers fuel more = some (ms, rest)) :
    readMembers (fuel + 1) (quoted name ++ ':' :: cs) = some ((some name, v) :: ms, rest) := by
  rw [quoted, List.cons_append, List.append_assoc, List.singleton_append, readMembers,
    skipSpace_cons rfl]
  have hcolon : skipSpace (':' :: cs) = ':' :: cs := skipSpace_cons rfl cs
  simp only [readString_quoted, textOf?_toList, hcolon, h, hb, hmore, Option.map_some]

theorem Number.literal_of_isSome {n : Number} (h : n.again?.isSome = true) :
    ∃ lit, literal? n.write = some (lit, []) ∧ lit.value? = some n.again := by
  rw [Number.again]
  rw [Number.again?] at h ⊢
  split at h
  · rename_i lit heq
    obtain ⟨m, hm⟩ := Option.isSome_iff_exists.1 h
    exact ⟨lit, heq, by simp [hm]⟩
  · cases h

theorem isOpening_spread (depth : Nat) {v : Json} (h : v.isLegible = true) :
    ∃ c cs, v.spread l depth = c :: cs ∧ isOpening c = true := by
  cases v with
  | null => exact ⟨'n', _, rfl, rfl⟩
  | bool b => cases b <;> exact ⟨_, _, rfl, rfl⟩
  | string s => exact ⟨'"', _, rfl, rfl⟩
  | array items => cases items <;> exact ⟨'[', _, rfl, rfl⟩
  | object members => cases members <;> exact ⟨'\x7b', _, rfl, rfl⟩
  | unreadable => cases h
  | number n =>
    obtain ⟨lit, hlit, -⟩ := Number.literal_of_isSome h
    have hspread : (Json.number n).spread l depth = n.write := rfl
    rw [hspread]
    cases hw : n.write with
    | nil =>
      rw [hw] at hlit
      cases hlit
    | cons c cs =>
      rw [hw] at hlit
      refine ⟨c, cs, rfl, ?_⟩
      rcases head_of_literal? hlit with rfl | hdigit
      · rfl
      · simp [isOpening, hdigit]

theorem skipSpace_spreadItems (depth : Nat) {v : Json} (vs : List Json) (h : v.isLegible = true)
    (cs : List Char) : ∀ more, skipSpace (spreadItems l depth (v :: vs) ++ cs) ≠ ']' :: more := by
  obtain ⟨c, tail, htail, hc⟩ := isOpening_spread (l := l) depth h
  have hskip : ∃ tail, skipSpace (spreadItems l depth (v :: vs) ++ cs) = c :: tail := by
    cases vs with
    | nil =>
      rw [spreadItems, htail, List.append_assoc, skipSpace_append (l.gap_blank depth), List.cons_append,
        skipSpace_cons (isSpace_of_isOpening hc)]
      exact ⟨_, rfl⟩
    | cons w ws =>
      rw [spreadItems, htail, List.append_assoc, skipSpace_append (l.gap_blank depth), List.cons_append,
        List.cons_append, skipSpace_cons (isSpace_of_isOpening hc)]
      · exact ⟨_, rfl⟩
      · simp
  obtain ⟨tail, hskip⟩ := hskip
  intro more heq
  rw [hskip] at heq
  rw [(List.cons.inj heq).1] at hc
  exact absurd hc (by decide)

theorem skipSpace_spreadMembers (depth : Nat) (m : String × Json) (ms : List (String × Json))
    (cs : List Char) : ∀ more, skipSpace (spreadMembers l depth (m :: ms) ++ cs) ≠ '\x7d' :: more := by
  intro more heq
  obtain ⟨name, v⟩ := m
  cases ms with
  | nil =>
    rw [spreadMembers, List.append_assoc, skipSpace_append (l.gap_blank depth), quoted, List.cons_append,
      List.cons_append, skipSpace_cons rfl] at heq
    exact absurd (List.cons.inj heq).1 (by decide)
  | cons m ms =>
    rw [spreadMembers, List.append_assoc, skipSpace_append (l.gap_blank depth), quoted, List.cons_append,
      List.cons_append, skipSpace_cons rfl] at heq
    · exact absurd (List.cons.inj heq).1 (by decide)
    · simp

end

-- The fuel of a reader is the length of the text: each bracket and each comma takes one unit of both.
mutual

theorem readValue_spread (l : Layout) (depth : Nat) :
    ∀ v : Json, v.isLegible = true → ∀ (fuel : Nat) (rest : List Char), StopsNumber rest →
      (v.spread l depth).length ≤ fuel →
      readValue fuel (v.spread l depth ++ rest) = some (v.mapNumbers Number.again, rest)
  | .null, _, fuel + 1, rest, _, _ => rfl
  | .bool true, _, fuel + 1, rest, _, _ => rfl
  | .bool false, _, fuel + 1, rest, _, _ => rfl
  | .string s, _, fuel + 1, rest, _, _ => readValue_quoted s fuel rest
  | .array [], _, fuel + 1, rest, _, _ => rfl
  | .object [], _, fuel + 1, rest, _, _ => rfl
  | .number n, h, fuel + 1, rest, hrest, _ => by
    obtain ⟨lit, hlit, hn⟩ := Number.literal_of_isSome h
    have happend := literal?_append hrest hlit
    exact readValue_number happend hn fuel
  | .array (v :: vs), h, fuel + 1, rest, hrest, hfuel => by
    have hitems := readItems_spread l (depth + 1) v vs h fuel (l.gap depth) rest (l.gap_blank depth)
    simp only [spread, List.length_cons, List.length_append, List.length_nil] at hfuel
    simp only [spread, List.cons_append, List.append_assoc, List.nil_append]
    rw [mapNumbers]
    refine readValue_array ?_ (hitems (by omega))
    exact skipSpace_spreadItems (depth + 1) vs (Bool.and_eq_true_iff.1 h).1 _
  | .object (m :: ms), h, fuel + 1, rest, hrest, hfuel => by
    have hmembers := readMembers_spread l (depth + 1) m ms h fuel (l.gap depth) rest (l.gap_blank depth)
    simp only [spread, List.length_cons, List.length_append, List.length_nil] at hfuel
    simp only [spread, List.cons_append, List.append_assoc, List.nil_append]
    rw [mapNumbers]
    exact readValue_object (skipSpace_spreadMembers (depth + 1) m ms _) (hmembers (by omega))
  | v, h, 0, rest, _, hfuel => by
    obtain ⟨c, cs, hcs, -⟩ := isOpening_spread (l := l) depth h
    rw [hcs] at hfuel
    cases hfuel

theorem readItems_spread (l : Layout) (depth : Nat) :
    ∀ (v : Json) (vs : List Json), allLegible (v :: vs) = true →
      ∀ (fuel : Nat) (gap rest : List Char), (∀ c ∈ gap, isSpace c = true) →
      (spreadItems l depth (v :: vs)).length < fuel →
      readItems fuel (spreadItems l depth (v :: vs) ++ (gap ++ ']' :: rest)) =
        some (mapItems Number.again (v :: vs), rest)
  | v, [], h, fuel + 1, gap, rest, hgap, hfuel => by
    have hv := readValue_spread l depth v (Bool.and_eq_true_iff.1 h).1 fuel (gap ++ ']' :: rest)
      ((stopsNumber_cons rfl).append_blank hgap)
    simp only [spreadItems, List.length_append] at hfuel
    rw [spreadItems, List.append_assoc]
    refine readItems_last (b := gap ++ ']' :: rest) ?_ ?_
    · rw [readValue_append (l.gap_blank depth)]
      exact hv (by omega)
    · rw [skipSpace_append hgap, skipSpace_cons rfl]
  | v, w :: vs, h, fuel + 1, gap, rest, hgap, hfuel => by
    have hv := readValue_spread l depth v (Bool.and_eq_true_iff.1 h).1 fuel
      (',' :: (spreadItems l depth (w :: vs) ++ (gap ++ ']' :: rest))) (stopsNumber_cons rfl)
    have hvs := readItems_spread l depth w vs (Bool.and_eq_true_iff.1 h).2 fuel gap rest hgap
    obtain ⟨c, cs, hcs, -⟩ := isOpening_spread (l := l) depth (Bool.and_eq_true_iff.1 h).1
    have hpos : 0 < (v.spread l depth).length := by rw [hcs]; exact Nat.succ_pos _
    simp only [spreadItems, List.length_append, List.length_cons] at hfuel
    rw [spreadItems, List.append_assoc, List.append_assoc, List.cons_append]
    · refine readItems_cons (b := _) ?_ (skipSpace_cons rfl _) (hvs ?_)
      · rw [readValue_append (l.gap_blank depth)]
        exact hv (by omega)
      · omega
    · simp

theorem readMembers_spread (l : Layout) (depth : Nat) :
    ∀ (m : String × Json) (ms : List (String × Json)), membersLegible (m :: ms) = true →
      ∀ (fuel : Nat) (gap rest : List Char), (∀ c ∈ gap, isSpace c = true) →
      (spreadMembers l depth (m :: ms)).length < fuel →
      readMembers fuel (spreadMembers l depth (m :: ms) ++ (gap ++ '\x7d' :: rest)) =
        some ((mapMembers Number.again (m :: ms)).map fun m => (some m.1, m.2), rest)
  | (name, v), [], h, fuel + 1, gap, rest, hgap, hfuel => by
    have hv := readValue_spread l depth v (Bool.and_eq_true_iff.1 h).1 fuel (gap ++ '\x7d' :: rest)
      ((stopsNumber_cons rfl).append_blank hgap)
    simp only [spreadMembers, List.length_append, List.length_cons] at hfuel
    rw [spreadMembers, List.append_assoc, ← readMembers_skipSpace,
      skipSpace_append (l.gap_blank depth), readMembers_skipSpace, List.append_assoc, List.cons_append,
      List.append_assoc]
    refine readMembers_last (b := gap ++ '\x7d' :: rest) ?_ ?_
    · rw [readValue_append l.colon_blank]
      exact hv (by omega)
    · rw [skipSpace_append hgap, skipSpace_cons rfl]
  | (name, v), m :: ms, h, fuel + 1, gap, rest, hgap, hfuel => by
    have hv := readValue_spread l depth v (Bool.and_eq_true_iff.1 h).1 fuel
      (',' :: (spreadMembers l depth (m :: ms) ++ (gap ++ '\x7d' :: rest))) (stopsNumber_cons rfl)
    have hms := readMembers_spread l depth m ms (Bool.and_eq_true_iff.1 h).2 fuel gap rest hgap
    simp only [spreadMembers, List.length_append, List.length_cons] at hfuel
    rw [spreadMembers, List.append_assoc, ← readMembers_skipSpace,
      skipSpace_append (l.gap_blank depth), readMembers_skipSpace, List.append_assoc, List.cons_append,
      List.append_assoc, List.append_assoc, List.cons_append]
    · refine readMembers_cons (b := _) ?_ (skipSpace_cons rfl _) (hms ?_)
      · rw [readValue_append l.colon_blank]
        exact hv (by omega)
      · omega
    · simp

end

theorem readChars?_spread (l : Layout) (depth : Nat) {v : Json} (h : v.isLegible = true) :
    readChars? (v.spread l depth) = some (v.mapNumbers Number.again) := by
  have hread := readValue_spread l depth v h (2 * (v.spread l depth).length + 2) []
    (by intro c hc; cases hc) (by omega)
  rw [List.append_nil] at hread
  rw [readChars?, hread]
  rfl

/-- A value is read from its compact text, each number as it is read from its own text. -/
theorem read?_compactText {v : Json} (h : v.isLegible = true) :
    read? v.compactText = some (v.mapNumbers Number.again) := by
  rw [read?, compactText, String.toList_ofList, write_eq_spread 0]
  exact readChars?_spread .compact 0 h

theorem read?_indentedText {v : Json} (h : v.isLegible = true) :
    read? v.indentedText = some (v.mapNumbers Number.again) := by
  rw [read?, indentedText, String.toList_ofList, indented_eq_spread]
  exact readChars?_spread .lines 0 h

end Folio.Json
