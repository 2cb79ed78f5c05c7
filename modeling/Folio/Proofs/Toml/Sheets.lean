import Folio.Config.Format
import Folio.Proofs.Toml.Values

set_option autoImplicit false

namespace Folio.Toml

open Config (tomlLine tomlHeader)

inductive Leaf where
  | text (s : String)
  | flag (b : Bool)
  | number (x : Double)
  | texts (ss : List String)

namespace Leaf

def write : Leaf → List Char
  | .text s => writeString s
  | .flag b => writeBool b
  | .number x => writeFloat x
  | .texts ss => writeStrings ss

def value : Leaf → Toml
  | .text s => .string s
  | .flag b => .boolean b
  | .number x => .float ((floatAgain? x).getD x)
  | .texts ss => .array (ss.map .string)

def IsLegible : Leaf → Prop
  | .number x => (floatAgain? x).isSome = true
  | _ => True

theorem read {l : Leaf} (h : l.IsLegible) (fuel depth : Nat) (hfuel : l.write.length < fuel)
    (rest : List Char) :
    value? (fuel + 1) (depth + 1) (l.write ++ '\n' :: rest) = some (l.value, '\n' :: rest) := by
  cases l with
  | text s => exact value?_writeString s fuel (depth + 1) (by decide) (by decide) rest
  | flag b => exact value?_writeBool b fuel (depth + 1) ('\n' :: rest)
  | number x =>
    obtain ⟨y, hy⟩ := Option.isSome_iff_exists.1 h
    rw [value, hy]
    exact value?_writeFloat hy fuel (depth + 1) rest
  | texts ss => exact value?_writeStrings ss fuel depth hfuel ('\n' :: rest)

theorem skipGap_write (l : Leaf) (rest : List Char) :
    skipGap (l.write ++ rest) = l.write ++ rest := by
  have hhead : ∃ c cs, l.write = c :: cs ∧ isGap c = false := by
    cases l with
    | text s =>
      obtain ⟨q, cs, hcs, hq⟩ := head_writeString s
      exact ⟨q, cs, hcs, by rcases hq with rfl | rfl <;> rfl⟩
    | flag b =>
      cases b with
      | true => exact ⟨'t', ['r', 'u', 'e'], by decide, rfl⟩
      | false => exact ⟨'f', ['a', 'l', 's', 'e'], by decide, rfl⟩
    | number x =>
      obtain ⟨hall, c, cs, hcs, -⟩ := writeFloat_spec x
      have hc := hall c (by rw [hcs]; exact List.mem_cons_self)
      refine ⟨c, cs, hcs, ?_⟩
      cases hgap : isGap c with
      | false => rfl
      | true =>
        simp only [isGap, Bool.or_eq_true, beq_iff_eq] at hgap
        rcases hgap with rfl | rfl <;> exact absurd hc (by decide)
    | texts ss => rcases ss with - | ⟨s, - | ⟨t, ss⟩⟩ <;> exact ⟨'[', _, rfl, rfl⟩
  obtain ⟨c, cs, hcs, hgap⟩ := hhead
  rw [hcs]
  exact skipGap_cons hgap _

end Leaf

def isBare (key : String) : Bool := !key.toList.isEmpty && key.toList.all isBareKeyChar

def keyText : List String → List Char
  | [] => []
  | [key] => key.toList
  | key :: path => key.toList ++ '.' :: keyText path

section

variable {key : String} {rest : List Char}

theorem isBare_cons (h : isBare key = true) :
    ∃ c cs, key.toList = c :: cs ∧ isBareKeyChar c = true := by
  simp only [isBare, Bool.and_eq_true, Bool.not_eq_true', List.all_eq_true, List.isEmpty_eq_false_iff] at h
  obtain ⟨c, cs, hcs⟩ := List.exists_cons_of_ne_nil h.1
  exact ⟨c, cs, hcs, h.2 c (by rw [hcs]; exact List.mem_cons_self)⟩

theorem isBareKeyChar_spec {c : Char} (h : isBareKeyChar c = true) :
    c ∉ ['"', '\'', '[', '.', '\ufeff'] ∧ isSolid c = true := by
  constructor
  · intro hmem
    simp only [List.mem_cons, List.not_mem_nil, or_false] at hmem
    rcases hmem with rfl | rfl | rfl | rfl | rfl <;> exact absurd h (by decide)
  · cases hs : isSolid c with
    | true => rfl
    | false =>
      simp only [isSolid, isGap, Bool.and_eq_false_iff, Bool.not_eq_false', Bool.or_eq_true, beq_iff_eq,
        bne_eq_false_iff_eq] at hs
      rcases hs with (((rfl | rfl) | rfl) | rfl) | rfl <;> exact absurd h (by decide)

theorem simpleKey?_append (h : isBare key = true) (hrest : ∀ c ∈ rest.head?, isBareKeyChar c = false) :
    simpleKey? (key.toList ++ rest) = some (key, rest) := by
  have hall : ∀ c ∈ key.toList, isBareKeyChar c = true := by
    simp only [isBare, Bool.and_eq_true, List.all_eq_true] at h
    exact h.2
  obtain ⟨c, cs, hcs, hc⟩ := isBare_cons h
  have hspec := (isBareKeyChar_spec hc).1
  obtain ⟨htake, hdrop⟩ := takeWhile_boundary hall hrest
  rw [simpleKey?.eq_def]
  split
  · rename_i heq
    rw [hcs] at heq
    exact absurd ((List.cons.inj heq).1 ▸ by simp) hspec
  · rename_i heq
    rw [hcs] at heq
    exact absurd ((List.cons.inj heq).1 ▸ by simp) hspec
  · rw [htake, hdrop]
    split
    · rename_i heq
      rw [hcs] at heq
      cases heq
    · rw [String.ofList_toList]

theorem dottedKey?_append (h : isBare key = true) (hrest : ∀ c ∈ rest.head?, isBareKeyChar c = false)
    (hdot : (skipGap rest).head? ≠ some '.') (fuel : Nat) :
    dottedKey? (fuel + 1) (key.toList ++ rest) = some ([], key, skipGap rest) := by
  obtain ⟨c, cs, hcs, hc⟩ := isBare_cons h
  have hgap : skipGap (key.toList ++ rest) = key.toList ++ rest := by
    rw [hcs]
    exact skipGap_cons (isGap_of_isSolid (isBareKeyChar_spec hc).2) _
  rw [dottedKey?, hgap, simpleKey?_append h hrest]
  simp only
  split
  · rename_i heq
    rw [heq] at hdot
    exact absurd rfl hdot
  · rfl

theorem dottedKey?_keyText (path : List String) (hpath : ∀ k ∈ path, isBare k = true)
    (h : isBare key = true) (hrest : ∀ c ∈ rest.head?, isBareKeyChar c = false)
    (hdot : (skipGap rest).head? ≠ some '.') (fuel : Nat) (hfuel : path.length < fuel) :
    dottedKey? fuel (keyText (path ++ [key]) ++ rest) = some (path, key, skipGap rest) := by
  induction path generalizing fuel with
  | nil =>
    cases fuel with
    | zero => cases hfuel
    | succ fuel => exact dottedKey?_append h hrest hdot fuel
  | cons k path ih =>
    cases fuel with
    | zero => cases hfuel
    | succ fuel =>
      have hk := hpath k List.mem_cons_self
      obtain ⟨c, cs, hcs, hc⟩ := isBare_cons hk
      have hkey : keyText (k :: path ++ [key]) = k.toList ++ '.' :: keyText (path ++ [key]) := by
        rw [List.cons_append, keyText]
        simp
      have hgap : skipGap (k.toList ++ '.' :: (keyText (path ++ [key]) ++ rest)) =
          k.toList ++ '.' :: (keyText (path ++ [key]) ++ rest) := by
        rw [hcs]
        exact skipGap_cons (isGap_of_isSolid (isBareKeyChar_spec hc).2) _
      have hread := ih (fun k hk => hpath k (List.mem_cons_of_mem _ hk)) fuel
        (Nat.lt_of_succ_lt_succ hfuel)
      rw [hkey, List.append_assoc, List.cons_append, dottedKey?, hgap,
        simpleKey?_append hk (by simp; decide)]
      simp only [skipGap_cons (show isGap '.' = false from rfl), hread, Option.map_some]

theorem keyText_cons (path : List String) (hpath : ∀ k ∈ path, isBare k = true)
    (h : isBare key = true) :
    ∃ c cs, keyText (path ++ [key]) = c :: cs ∧ isBareKeyChar c = true := by
  cases path with
  | nil => exact isBare_cons h
  | cons k path =>
    obtain ⟨c, cs, hcs, hc⟩ := isBare_cons (hpath k List.mem_cons_self)
    refine ⟨c, cs ++ '.' :: keyText (path ++ [key]), ?_, hc⟩
    rw [List.cons_append, keyText, hcs, List.cons_append]
    simp

end

/-- Whether a text is read as these statements, with as much fuel as a reader gives. -/
def Reads (cs : List Char) (statements : List Statement) : Prop :=
  ∀ fuel, cs.length < fuel → statements? fuel cs = some statements

section

variable {more : List Char} {statements : List Statement}

theorem reads_nil : Reads [] [] := by
  intro fuel h
  cases fuel with
  | zero => cases h
  | succ fuel => rfl

theorem endOfLine?_feed (more : List Char) : endOfLine? ('\n' :: more) = some more := rfl

theorem Reads.statement {c : Char} {cs : List Char} {st : Statement} (h : Reads more statements)
    (hc : isSolid c = true) (hstatement : statement? (c :: cs) = some (st, '\n' :: more))
    (hlength : more.length < (c :: cs).length) : Reads (c :: cs) (st :: statements) := by
  intro fuel hfuel
  cases fuel with
  | zero => cases hfuel
  | succ fuel =>
    have hmore := h fuel (by omega)
    rw [statements?, skipLines_cons hc]
    simp only [hstatement, endOfLine?_feed, hmore, Option.map_some]

theorem statement?_line {name : String} (hname : isBare name = true) {l : Leaf} (hl : l.IsLegible)
    (more : List Char) : statement? (tomlLine name l.write ++ more) =
      some (.keyValue [] name l.value, '\n' :: more) := by
  have hshape : tomlLine name l.write ++ more =
      name.toList ++ (' ' :: '=' :: ' ' :: (l.write ++ '\n' :: more)) := by
    simp [tomlLine]
  obtain ⟨c, cs, hcs, hc⟩ := isBare_cons hname
  have hspec := (isBareKeyChar_spec hc).1
  have hgap : skipGap (' ' :: '=' :: ' ' :: (l.write ++ '\n' :: more)) =
      '=' :: ' ' :: (l.write ++ '\n' :: more) := rfl
  have hkey : dottedKey? nestingLimit (name.toList ++ ' ' :: '=' :: ' ' :: (l.write ++ '\n' :: more)) =
      some ([], name, '=' :: ' ' :: (l.write ++ '\n' :: more)) := by
    rw [← hgap]
    exact dottedKey?_append hname (by simp; decide) (by simp [skipGap, isGap]) 78
  have hkeyValue : keyValue? (2 * (tomlLine name l.write ++ more).length + 2) nestingLimit
      (tomlLine name l.write ++ more) = some (([], name, l.value), '\n' :: more) := by
    have hgap' : skipGap (' ' :: (l.write ++ '\n' :: more)) = l.write ++ '\n' :: more := by
      have hblank : skipGap (' ' :: (l.write ++ '\n' :: more)) = skipGap (l.write ++ '\n' :: more) := rfl
      rw [hblank, Leaf.skipGap_write]
    have hread : value? (2 * (tomlLine name l.write ++ more).length + 1) nestingLimit
        (l.write ++ '\n' :: more) = some (l.value, '\n' :: more) :=
      l.read hl _ 78 (by rw [hshape]; simp only [List.length_append, List.length_cons]; omega) more
    rw [keyValue?]
    rw [hshape] at hread ⊢
    rw [hkey]
    simp only [hgap', hread, Option.map_some]
  rw [statement?.eq_def]
  split
  · rename_i heq
    rw [hshape, hcs] at heq
    exact absurd ((List.cons.inj heq).1 ▸ by simp) hspec
  · rename_i heq
    rw [hshape, hcs] at heq
    exact absurd ((List.cons.inj heq).1 ▸ by simp) hspec
  · rw [hkeyValue]
    rfl

theorem Reads.line (h : Reads more statements) {name : String} (hname : isBare name = true) {l : Leaf}
    (hl : l.IsLegible) :
    Reads (tomlLine name l.write ++ more) (.keyValue [] name l.value :: statements) := by
  have hstatement := statement?_line hname hl more
  have hlength : more.length < (tomlLine name l.write ++ more).length := by
    simp only [tomlLine, List.length_append, List.length_cons]
    omega
  obtain ⟨c, cs, hcs, hc⟩ := isBare_cons hname
  have hshape : tomlLine name l.write ++ more =
      c :: (cs ++ [' ', '=', ' '] ++ l.write ++ ['\n'] ++ more) := by
    simp [tomlLine, hcs]
  rw [hshape] at hstatement hlength ⊢
  exact h.statement (isBareKeyChar_spec hc).2 hstatement hlength

def header (path : List String) : List Char := '\n' :: '[' :: (keyText path ++ [']', '\n'])

theorem Reads.header (h : Reads more statements) {path : List String} {key : String}
    (hpath : ∀ k ∈ path, isBare k = true) (hkey : isBare key = true) (hlength : path.length < nestingLimit) :
    Reads (header (path ++ [key]) ++ more) (.header path key :: statements) := by
  have hshape : Toml.header (path ++ [key]) ++ more =
      '\n' :: '[' :: (keyText (path ++ [key]) ++ ']' :: '\n' :: more) := by
    simp [Toml.header]
  have hread : dottedKey? nestingLimit (keyText (path ++ [key]) ++ ']' :: '\n' :: more) =
      some (path, key, ']' :: '\n' :: more) :=
    dottedKey?_keyText path hpath hkey (by simp; decide) (by simp [skipGap, isGap]) nestingLimit hlength
  have hstatement : statement? ('[' :: (keyText (path ++ [key]) ++ ']' :: '\n' :: more)) =
      some (.header path key, '\n' :: more) := by
    obtain ⟨c, cs, hcs, hc⟩ := keyText_cons path hpath hkey
    have hspec := (isBareKeyChar_spec hc).1
    rw [statement?.eq_def]
    split
    · rename_i heq
      rw [hcs] at heq
      exact absurd ((List.cons.inj (List.cons.inj heq).2).1 ▸ by simp) hspec
    · rename_i heq
      rw [← (List.cons.inj heq).2, hread]
      rfl
    · rename_i hno
      exact absurd rfl (hno _)
  intro fuel hfuel
  rw [hshape] at hfuel ⊢
  cases fuel with
  | zero => cases hfuel
  | succ fuel =>
    have hblank : statements? (fuel + 1) ('\n' :: '[' :: (keyText (path ++ [key]) ++ ']' :: '\n' :: more)) =
        statements? (fuel + 1) ('[' :: (keyText (path ++ [key]) ++ ']' :: '\n' :: more)) := rfl
    rw [hblank]
    refine h.statement (by decide) hstatement ?_ (fuel + 1) (Nat.lt_of_succ_lt hfuel)
    simp only [List.length_append, List.length_cons]
    omega

end

/-- A table as it is written: its values, and then the tables inside it. -/
inductive Sheet where
  | mk (lines : List (String × Leaf)) (parts : List (String × Sheet))

mutual

def Sheet.write : Sheet → List String → List Char
  | .mk lines parts, path => lines.flatMap (fun l => tomlLine l.1 l.2.write) ++ writeParts parts path

def writeParts : List (String × Sheet) → List String → List Char
  | [], _ => []
  | (key, part) :: parts, path =>
    header (path ++ [key]) ++ (part.write (path ++ [key]) ++ writeParts parts path)

end

mutual

def Sheet.statements : Sheet → List String → List Statement
  | .mk lines parts, path => lines.map (fun l => .keyValue [] l.1 l.2.value) ++ partStatements parts path

def partStatements : List (String × Sheet) → List String → List Statement
  | [], _ => []
  | (key, part) :: parts, path =>
    .header path key :: (part.statements (path ++ [key]) ++ partStatements parts path)

end

mutual

def Sheet.entries : Sheet → Entries
  | .mk lines parts => lines.map (fun l => (l.1, l.2.value)) ++ partEntries parts

def partEntries : List (String × Sheet) → Entries
  | [] => []
  | (key, part) :: parts => (key, .table .header part.entries) :: partEntries parts

end

mutual

/-- Keys are bare, distinct in each table, and no deeper than a reader goes; values are found again. -/
def Sheet.IsSound : Sheet → List String → Prop
  | .mk lines parts, path =>
    (lines.map (·.1) ++ parts.map (·.1)).Nodup ∧
      (∀ l ∈ lines, isBare l.1 = true ∧ l.2.IsLegible) ∧ PartsSound parts path

def PartsSound : List (String × Sheet) → List String → Prop
  | [], _ => True
  | (key, part) :: parts, path =>
    (isBare key = true ∧ path.length < nestingLimit) ∧ part.IsSound (path ++ [key]) ∧ PartsSound parts path

end

theorem reads_lines {lines : List (String × Leaf)}
    (h : ∀ l ∈ lines, isBare l.1 = true ∧ l.2.IsLegible) {more : List Char}
    {statements : List Statement} (hmore : Reads more statements) :
    Reads (lines.flatMap (fun l => tomlLine l.1 l.2.write) ++ more)
      (lines.map (fun l => .keyValue [] l.1 l.2.value) ++ statements) := by
  induction lines with
  | nil => exact hmore
  | cons l lines ih =>
    have hl := h l List.mem_cons_self
    have hlines := ih fun l hl => h l (List.mem_cons_of_mem _ hl)
    rw [List.flatMap_cons, List.append_assoc]
    exact hlines.line hl.1 hl.2

mutual

theorem reads_sheet : ∀ (s : Sheet) (path : List String), (∀ k ∈ path, isBare k = true) →
    s.IsSound path → ∀ {more : List Char} {statements : List Statement}, Reads more statements →
    Reads (s.write path ++ more) (s.statements path ++ statements)
  | .mk lines parts, path, hpath, h, more, statements, hmore => by
    have hparts := reads_parts parts path hpath h.2.2 hmore
    rw [Sheet.write, Sheet.statements, List.append_assoc, List.append_assoc]
    exact reads_lines h.2.1 hparts

theorem reads_parts : ∀ (parts : List (String × Sheet)) (path : List String),
    (∀ k ∈ path, isBare k = true) → PartsSound parts path →
    ∀ {more : List Char} {statements : List Statement}, Reads more statements →
    Reads (writeParts parts path ++ more) (partStatements parts path ++ statements)
  | [], _, _, _, _, _, hmore => hmore
  | (key, part) :: parts, path, hpath, h, more, statements, hmore => by
    have hparts := reads_parts parts path hpath h.2.2 hmore
    have hpath' : ∀ k ∈ path ++ [key], isBare k = true := by
      intro k hk
      rcases List.mem_append.1 hk with hk | hk
      · exact hpath k hk
      · rw [List.mem_singleton.1 hk]
        exact h.1.1
    have hpart := reads_sheet part (path ++ [key]) hpath' h.2.1 hparts
    rw [writeParts, partStatements, List.append_assoc, List.append_assoc, List.cons_append,
      List.append_assoc]
    exact hpart.header hpath h.1.1 h.1.2

end

theorem alter_append (key : String) (f : Option Toml → Option Toml) {es : Entries}
    (h : key ∉ es.map (·.1)) (more : Entries) :
    alter key f (es ++ more) = (alter key f more).map (es ++ ·) := by
  induction es with
  | nil => simp
  | cons e es ih =>
    rw [List.map_cons, List.mem_cons, not_or] at h
    rw [List.cons_append, alter, if_neg (by simpa using fun he => h.1 he.symm), ih h.2, Option.map_map]
    rfl

/-- A new key comes behind the others. -/
theorem alter_fresh (key : String) (f : Option Toml → Option Toml) {es : Entries}
    (h : key ∉ es.map (·.1)) : alter key f es = (f none).map fun v => es ++ [(key, v)] := by
  have happend := alter_append key f h []
  rw [List.append_nil, alter, Option.map_map] at happend
  exact happend

theorem alter_last (key : String) (f : Option Toml → Option Toml) {es : Entries}
    (h : key ∉ es.map (·.1)) (v : Toml) :
    alter key f (es ++ [(key, v)]) = (f (some v)).map fun v => es ++ [(key, v)] := by
  rw [alter_append key f h, alter, if_pos (beq_self_eq_true key), Option.map_map]
  rfl

/-- Where the table at a path stands in a document: what is done at the path is done to that table. -/
def IsHole (path : List String) (context : Entries → Entries) : Prop :=
  ∀ f es, within path f (context es) = (f es).map context

theorem isHole_nil : IsHole [] id := by
  intro f es
  rw [within, id, Option.map_id_fun, id]

theorem within_append (path : List String) (key : String) (f : Entries → Option Entries) :
    within (path ++ [key]) f = within path (within [key] f) := by
  induction path with
  | nil => rfl
  | cons k path ih =>
    funext es
    rw [List.cons_append, within, within, ih]

theorem IsHole.part {path : List String} {context : Entries → Entries} (h : IsHole path context)
    {key : String} {es : Entries} (hkey : key ∉ es.map (·.1)) :
    IsHole (path ++ [key]) fun inner => context (es ++ [(key, .table .header inner)]) := by
  intro f inner
  have hinner : within [key] f (es ++ [(key, .table .header inner)]) =
      (f inner).map fun inner => es ++ [(key, .table .header inner)] := by
    rw [within, alter_last key _ hkey]
    simp only [reduceCtorEq, if_false, within, Option.map_map]
    rfl
  rw [within_append, h, hinner, Option.map_map]
  rfl

section

variable {path : List String} {context : Entries → Entries}

theorem step?_keyValue (h : IsHole path context) {key : String} {es : Entries}
    (hkey : key ∉ es.map (·.1)) (v : Toml) :
    Build.step? ⟨context es, path⟩ (.keyValue [] key v) = some ⟨context (es ++ [(key, v)]), path⟩ := by
  have hfresh : es.any (·.1 == key) = false := by
    rw [List.any_eq_false]
    intro e he hek
    exact hkey (beq_iff_eq.1 hek ▸ List.mem_map_of_mem he)
  rw [Build.step?, h, define, hfresh]
  rfl

theorem step?_header (h : IsHole path context) {key : String} {es : Entries}
    (hkey : key ∉ es.map (·.1)) (current : List String) :
    Build.step? ⟨context es, current⟩ (.header path key) =
      some ⟨context (es ++ [(key, .table .header [])]), path ++ [key]⟩ := by
  have hopen : openTable key es = some (es ++ [(key, .table .header [])]) := by
    rw [openTable, alter_fresh key _ hkey]
    rfl
  rw [Build.step?, h, hopen]
  rfl

theorem foldlM_lines (h : IsHole path context) (lines : List (String × Leaf)) (es : Entries)
    (hkeys : (es.map (·.1) ++ lines.map (·.1)).Nodup) :
    (lines.map fun l => Statement.keyValue [] l.1 l.2.value).foldlM Build.step? ⟨context es, path⟩ =
      some ⟨context (es ++ lines.map fun l => (l.1, l.2.value)), path⟩ := by
  induction lines generalizing es with
  | nil => rw [List.map_nil, List.map_nil, List.append_nil]; rfl
  | cons l lines ih =>
    have hkey : l.1 ∉ es.map (·.1) := fun hmem =>
      (List.nodup_append.1 hkeys).2.2 _ hmem _ List.mem_cons_self rfl
    have hrest := ih (es ++ [(l.1, l.2.value)]) (by simpa using hkeys)
    rw [List.map_cons, List.foldlM_cons, step?_keyValue h hkey]
    rw [List.append_assoc] at hrest
    exact hrest

end

mutual

theorem foldlM_sheet : ∀ (s : Sheet) (path : List String), s.IsSound path →
    ∀ {context : Entries → Entries}, IsHole path context →
    ∃ current, (s.statements path).foldlM Build.step? ⟨context [], path⟩ =
      some ⟨context s.entries, current⟩
  | .mk lines parts, path, h, context, hhole => by
    have hlines := foldlM_lines hhole lines [] (List.nodup_append.1 h.1).1
    have hkeys : ((lines.map fun l => (l.1, l.2.value)).map (·.1) ++ parts.map (·.1)).Nodup := by
      rw [List.map_map]
      exact h.1
    obtain ⟨current, hparts⟩ := foldlM_parts parts path h.2.2 hhole
      (lines.map fun l => (l.1, l.2.value)) hkeys path
    refine ⟨current, ?_⟩
    rw [Sheet.statements, List.foldlM_append, hlines, Sheet.entries]
    exact hparts

theorem foldlM_parts : ∀ (parts : List (String × Sheet)) (path : List String), PartsSound parts path →
    ∀ {context : Entries → Entries}, IsHole path context → ∀ es : Entries,
    (es.map (·.1) ++ parts.map (·.1)).Nodup → ∀ current,
    ∃ current', (partStatements parts path).foldlM Build.step? ⟨context es, current⟩ =
      some ⟨context (es ++ partEntries parts), current'⟩
  | [], _, _, _, _, es, _, current => ⟨current, by rw [partStatements, partEntries, List.append_nil]; rfl⟩
  | (key, part) :: parts, path, h, context, hhole, es, hkeys, current => by
    have hkey : key ∉ es.map (·.1) := fun hmem =>
      (List.nodup_append.1 hkeys).2.2 _ hmem _ List.mem_cons_self rfl
    obtain ⟨inside, hpart⟩ := foldlM_sheet part (path ++ [key]) h.2.1 (hhole.part hkey)
    obtain ⟨current', hparts⟩ := foldlM_parts parts path h.2.2 hhole
      (es ++ [(key, .table .header part.entries)]) (by simpa using hkeys) inside
    refine ⟨current', ?_⟩
    rw [partStatements, List.foldlM_cons, step?_header hhole hkey, Option.bind_eq_bind, Option.bind_some,
      List.foldlM_append, hpart, partEntries]
    rw [List.append_assoc] at hparts
    exact hparts

end

theorem head_write {s : Sheet} {path : List String} (h : s.IsSound path) :
    ∀ c ∈ (s.write path).head?, c ≠ byteOrderMark := by
  obtain ⟨lines, parts⟩ := s
  rcases lines with - | ⟨⟨name, l⟩, lines⟩
  · rcases parts with - | ⟨⟨key, part⟩, parts⟩
    · intro c hc
      cases hc
    · intro c hc
      cases hc
      decide
  · obtain ⟨d, cs, hcs, hd⟩ := isBare_cons (h.2.1 (name, l) List.mem_cons_self).1
    intro c hc
    have hhead : ((Sheet.mk ((name, l) :: lines) parts).write path).head? = some d := by
      simp [Sheet.write, tomlLine, hcs]
    rw [hhead] at hc
    cases hc
    exact fun heq => (isBareKeyChar_spec hd).1 (by rw [heq]; decide)

theorem readChars?_write {s : Sheet} (h : s.IsSound []) :
    readChars? (s.write []) = some (.table .header s.entries) := by
  have hreads := reads_sheet s [] (by simp) h reads_nil
  rw [List.append_nil, List.append_nil] at hreads
  obtain ⟨current, hbuild⟩ := foldlM_sheet s [] h isHole_nil
  have hstatements := hreads ((s.write []).length + 1) (Nat.lt_succ_self _)
  have hmark := head_write h
  have hofStatements : ofStatements? (s.statements []) = some s.entries := by
    rw [ofStatements?]
    exact congrArg (Option.map Build.root) hbuild
  rw [readChars?.eq_def]
  cases hwrite : s.write [] with
  | nil =>
    rw [hwrite] at hstatements
    simp only [hstatements, Option.bind_some, hofStatements, Option.map_some]
  | cons c rest =>
    rw [hwrite] at hstatements hmark
    have hc : (c == byteOrderMark) = false := beq_eq_false_iff_ne.2 (hmark c rfl)
    simp only [hc, Bool.false_eq_true, if_false, hstatements, Option.bind_some, hofStatements, Option.map_some]

end Folio.Toml
