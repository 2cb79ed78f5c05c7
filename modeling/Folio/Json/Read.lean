import Folio.Json.Literal
import Folio.Text.Hex

set_option autoImplicit false

namespace Folio.Json

def isSpace (c : Char) : Bool := c == ' ' || c == '\n' || c == '\t' || c == '\r'

def skipSpace (cs : List Char) : List Char := cs.dropWhile isSpace

def unit? : List Char → Option (Nat × List Char)
  | a :: b :: c :: d :: rest =>
    match Text.nibble? a, Text.nibble? b, Text.nibble? c, Text.nibble? d with
    | some a, some b, some c, some d => some (((a * 16 + b) * 16 + c) * 16 + d, rest)
    | _, _, _, _ => none
  | _ => none

def simpleEscape? : Char → Option Char
  | '"' => some '"'
  | '\\' => some '\\'
  | '/' => some '/'
  | 'b' => some '\x08'
  | 'f' => some '\x0c'
  | 'n' => some '\n'
  | 'r' => some '\r'
  | 't' => some '\t'
  | _ => none

/-- A character of a string; `none` stands for half a surrogate pair. -/
abbrev Piece := Option Char

/-- The character of an escape by code units. A low half belongs to the high half before it. -/
def escaped (unit : Nat) (rest : List Char) : Piece × List Char :=
  if unit < 0xd800 || 0xdfff < unit then (some (Char.ofNat unit), rest)
  else if 0xdc00 ≤ unit then (none, rest)
  else match rest with
    | '\\' :: 'u' :: more =>
      match unit? more with
      | some (low, after) =>
        if 0xdc00 ≤ low && low ≤ 0xdfff then
          (some (Char.ofNat (0x10000 + (unit - 0xd800) * 0x400 + (low - 0xdc00))), after)
        else (none, rest)
      | none => (none, rest)
    | _ => (none, rest)

def readString : Nat → List Char → Option (List Piece × List Char)
  | 0, _ => none
  | fuel + 1, cs =>
    match cs with
    | [] => none
    | '"' :: rest => some ([], rest)
    | '\\' :: 'u' :: rest =>
      match unit? rest with
      | none => none
      | some (unit, rest) =>
        let (p, rest) := escaped unit rest
        (readString fuel rest).map fun (ps, rest) => (p :: ps, rest)
    | '\\' :: c :: rest =>
      match simpleEscape? c with
      | none => none
      | some c => (readString fuel rest).map fun (ps, rest) => (some c :: ps, rest)
    | c :: rest =>
      if c == '\\' || c.toNat < 32 then none
      else (readString fuel rest).map fun (ps, rest) => (some c :: ps, rest)

def textOf? (ps : List Piece) : Option String :=
  if ps.all Option.isSome then some (String.ofList (ps.filterMap id)) else none

def digits (cs : List Char) : List Char × List Char :=
  (cs.takeWhile Text.isDigit, cs.dropWhile Text.isDigit)

def fraction? : List Char → Option (Option (List Char) × List Char)
  | '.' :: rest =>
    match digits rest with
    | ([], _) => none
    | (ds, rest) => some (some ds, rest)
  | cs => some (none, cs)

def exponent? (cs : List Char) : Option (Option (Bool × List Char) × List Char) :=
  match cs with
  | c :: rest =>
    if c == 'e' || c == 'E' then
      let (down, rest) := match rest with
        | '+' :: rest => (false, rest)
        | '-' :: rest => (true, rest)
        | _ => (false, rest)
      match digits rest with
      | ([], _) => none
      | (ds, rest) => some (some (down, ds), rest)
    else some (none, cs)
  | [] => some (none, cs)

def literal? (cs : List Char) : Option (Literal × List Char) :=
  let (negative, cs) := match cs with
    | '-' :: rest => (true, rest)
    | _ => (false, cs)
  match digits cs with
  | ([], _) => none
  | ('0' :: _ :: _, _) => none
  | (whole, rest) =>
    match fraction? rest with
    | none => none
    | some (fraction, rest) =>
      match exponent? rest with
      | none => none
      | some (exponent, rest) => some (⟨negative, whole, fraction, exponent⟩, rest)

/-- The members of an object; one whose name is unreadable makes the object so. -/
def objectOf (members : List (Option String × Json)) : Json :=
  if members.all (·.1.isSome) then
    .object (members.filterMap fun (name, v) => name.map fun name => (name, v))
  else .unreadable

mutual

def readValue : Nat → List Char → Option (Json × List Char)
  | 0, _ => none
  | fuel + 1, cs =>
    match skipSpace cs with
    | 'n' :: 'u' :: 'l' :: 'l' :: rest => some (.null, rest)
    | 't' :: 'r' :: 'u' :: 'e' :: rest => some (.bool true, rest)
    | 'f' :: 'a' :: 'l' :: 's' :: 'e' :: rest => some (.bool false, rest)
    | '"' :: rest =>
      (readString (rest.length + 1) rest).map fun (ps, rest) =>
        (match textOf? ps with
          | some s => .string s
          | none => .unreadable, rest)
    | '[' :: rest =>
      match skipSpace rest with
      | ']' :: rest => some (.array [], rest)
      | rest => (readItems fuel rest).map fun (items, rest) => (.array items, rest)
    | '\x7b' :: rest =>
      match skipSpace rest with
      | '\x7d' :: rest => some (.object [], rest)
      | rest => (readMembers fuel rest).map fun (members, rest) => (objectOf members, rest)
    | cs =>
      (literal? cs).map fun (l, rest) =>
        (match l.value? with
          | some n => .number n
          | none => .unreadable, rest)

def readItems : Nat → List Char → Option (List Json × List Char)
  | 0, _ => none
  | fuel + 1, cs =>
    match readValue fuel cs with
    | none => none
    | some (v, rest) =>
      match skipSpace rest with
      | ']' :: rest => some ([v], rest)
      | ',' :: rest => (readItems fuel rest).map fun (vs, rest) => (v :: vs, rest)
      | _ => none

def readMembers : Nat → List Char → Option (List (Option String × Json) × List Char)
  | 0, _ => none
  | fuel + 1, cs =>
    match skipSpace cs with
    | '"' :: rest =>
      match readString (rest.length + 1) rest with
      | none => none
      | some (name, rest) =>
        match skipSpace rest with
        | ':' :: rest =>
          match readValue fuel rest with
          | none => none
          | some (v, rest) =>
            match skipSpace rest with
            | '\x7d' :: rest => some ([(textOf? name, v)], rest)
            | ',' :: rest =>
              (readMembers fuel rest).map fun (ms, rest) => ((textOf? name, v) :: ms, rest)
            | _ => none
        | _ => none
    | _ => none

end

def readChars? (cs : List Char) : Option Json :=
  match readValue (2 * cs.length + 2) cs with
  | some (v, rest) => if (skipSpace rest).isEmpty then some v else none
  | none => none

def read? (text : String) : Option Json := readChars? text.toList

end Folio.Json
