import Folio.Toml.Scalar

set_option autoImplicit false

namespace Folio.Toml

def isGap (c : Char) : Bool := c == ' ' || c == '\t'

def skipGap (cs : List Char) : List Char := cs.dropWhile isGap

def lineEnd? : List Char → Option (List Char)
  | '\n' :: cs => some cs
  | '\r' :: '\n' :: cs => some cs
  | _ => none

def isPrintable (c : Char) : Bool := c == '\t' || (32 ≤ c.toNat && c.toNat != 127)

def skipComment : List Char → List Char
  | '#' :: cs => cs.dropWhile isPrintable
  | cs => cs

def skipLines : Nat → List Char → List Char
  | 0, cs => cs
  | fuel + 1, cs =>
    let cs := skipComment (skipGap cs)
    match lineEnd? cs with
    | some rest => skipLines fuel rest
    | none => cs

def endOfLine? (cs : List Char) : Option (List Char) :=
  match skipComment (skipGap cs) with
  | [] => some []
  | cs => lineEnd? cs

def simpleEscape? : Char → Option Char
  | 'b' => some '\x08'
  | 't' => some '\t'
  | 'n' => some '\n'
  | 'f' => some '\x0c'
  | 'r' => some '\r'
  | '"' => some '"'
  | '\\' => some '\\'
  | _ => none

def codePoint? (count : Nat) (cs : List Char) : Option (Char × List Char) :=
  let ds := cs.take count
  if ds.length == count && ds.all (isBaseDigit 16) then
    let n := ds.foldl (fun n c => 16 * n + (Text.nibble? c).getD 0) 0
    if n < 0xd800 || (0xdfff < n && n < 0x110000) then some (Char.ofNat n, cs.drop count) else none
  else none

def escape? : List Char → Option (Char × List Char)
  | 'u' :: cs => codePoint? 4 cs
  | 'U' :: cs => codePoint? 8 cs
  | c :: cs => (simpleEscape? c).map fun c => (c, cs)
  | [] => none

def basicString : Nat → List Char → Option (List Char × List Char)
  | 0, _ => none
  | fuel + 1, cs =>
    match cs with
    | '"' :: rest => some ([], rest)
    | '\\' :: rest =>
      match escape? rest with
      | some (c, rest) => (basicString fuel rest).map fun (s, rest) => (c :: s, rest)
      | none => none
    | c :: rest =>
      if isPrintable c then (basicString fuel rest).map fun (s, rest) => (c :: s, rest) else none
    | [] => none

def literalString : List Char → Option (List Char × List Char)
  | '\'' :: rest => some ([], rest)
  | c :: rest =>
    if isPrintable c then (literalString rest).map fun (s, rest) => (c :: s, rest) else none
  | [] => none

/-- A run of at least three quotes ends a string; up to two more before them belong to it. -/
def closing? (quote : Char) (cs : List Char) : Option (List Char × List Char) :=
  let n := (cs.takeWhile (· == quote)).length
  if n < 3 then none
  else
    let extra := min (n - 3) 2
    some (List.replicate extra quote, cs.drop (3 + extra))

/-- What a backslash at the end of a line skips: all blanks and line ends. -/
def continuation? (cs : List Char) : Option (List Char) :=
  match lineEnd? (skipGap cs) with
  | some rest => some (rest.dropWhile fun c => isGap c || c == '\n' || c == '\r')
  | none => none

/-- A string over several lines; in a literal one the backslash is like any other character. -/
def longString (quote : Char) : Nat → List Char → Option (List Char × List Char)
  | 0, _ => none
  | fuel + 1, cs =>
    let literal := quote == '\''
    let next (c : Char) (rest : List Char) : Option (List Char × List Char) :=
      (longString quote fuel rest).map fun (s, rest) => (c :: s, rest)
    match closing? quote cs with
    | some (extra, rest) => some (extra, rest)
    | none =>
      match lineEnd? cs with
      | some rest => next '\n' rest
      | none =>
        match cs with
        | [] => none
        | c :: rest =>
          if c == '\\' && !literal then
            match continuation? rest with
            | some rest => longString quote fuel rest
            | none =>
              match escape? rest with
              | some (c, rest) => next c rest
              | none => none
          else if isPrintable c then next c rest
          else none

def dropLineEnd (cs : List Char) : List Char := (lineEnd? cs).getD cs

def string? (cs : List Char) : Option (String × List Char) :=
  let text : Option (List Char × List Char) → Option (String × List Char) :=
    Option.map fun (s, rest) => (String.ofList s, rest)
  match cs with
  | '"' :: '"' :: '"' :: rest => text (longString '"' (rest.length + 1) (dropLineEnd rest))
  | '\'' :: '\'' :: '\'' :: rest => text (longString '\'' (rest.length + 1) (dropLineEnd rest))
  | '"' :: rest => text (basicString (rest.length + 1) rest)
  | '\'' :: rest => text (literalString rest)
  | _ => none

def isBareKeyChar (c : Char) : Bool := c.isAlphanum || c == '_' || c == '-'

def simpleKey? (cs : List Char) : Option (String × List Char) :=
  match cs with
  | '"' :: rest =>
    (basicString (rest.length + 1) rest).map fun (s, rest) => (String.ofList s, rest)
  | '\'' :: rest => (literalString rest).map fun (s, rest) => (String.ofList s, rest)
  | _ =>
    match cs.takeWhile isBareKeyChar with
    | [] => none
    | key => some (String.ofList key, cs.dropWhile isBareKeyChar)

def dottedKey? : Nat → List Char → Option (List String × String × List Char)
  | 0, _ => none
  | fuel + 1, cs =>
    match simpleKey? (skipGap cs) with
    | none => none
    | some (key, rest) =>
      match skipGap rest with
      | '.' :: rest => (dottedKey? fuel rest).map fun (path, last, rest) => (key :: path, last, rest)
      | rest => some ([], key, rest)

/-- Dotted keys have at most so many parts, and arrays and tables in place nest at most as deep. -/
def nestingLimit : Nat := 79

def isScalarChar (c : Char) : Bool :=
  c.isAlphanum || c == '+' || c == '-' || c == '_' || c == '.' || c == ':'

/-- The text of a number, date or time. A date and a time may be separated by a space. -/
def scalarText (cs : List Char) : List Char :=
  let token := cs.takeWhile isScalarChar
  let rest := cs.dropWhile isScalarChar
  match afterDate? token, rest with
  | some [], ' ' :: a :: b :: ':' :: _ =>
    if Text.isDigit a && Text.isDigit b then token ++ ' ' :: (rest.drop 1).takeWhile isScalarChar
    else token
  | _, _ => token

mutual

def value? : Nat → Nat → List Char → Option (Toml × List Char)
  | 0, _, _ => none
  | fuel + 1, depth, cs =>
    match cs with
    | 't' :: 'r' :: 'u' :: 'e' :: rest => some (.boolean true, rest)
    | 'f' :: 'a' :: 'l' :: 's' :: 'e' :: rest => some (.boolean false, rest)
    | '[' :: rest =>
      if depth == 0 then none
      else (items? fuel (depth - 1) rest).map fun (items, rest) => (.array items, rest)
    | '\x7b' :: rest =>
      if depth == 0 then none
      else
        let keys : Option (List (List String × String × Toml) × List Char) :=
          match skipGap rest with
          | '\x7d' :: rest => some ([], rest)
          | rest => keys? fuel (depth - 1) rest
        keys.bind fun (keys, rest) => (inPlaceTable keys).map fun t => (t, rest)
    | c :: _ =>
      if c == '"' || c == '\'' then (string? cs).map fun (s, rest) => (.string s, rest)
      else
        let token := scalarText cs
        (scalar? token).map fun v => (v, cs.drop token.length)
    | [] => none

def items? : Nat → Nat → List Char → Option (List Toml × List Char)
  | 0, _, _ => none
  | fuel + 1, depth, cs =>
    match skipLines (cs.length + 1) cs with
    | ']' :: rest => some ([], rest)
    | cs =>
      match value? fuel depth cs with
      | none => none
      | some (v, rest) =>
        match skipLines (rest.length + 1) rest with
        | ']' :: rest => some ([v], rest)
        | ',' :: rest => (items? fuel depth rest).map fun (vs, rest) => (v :: vs, rest)
        | _ => none

def keys? : Nat → Nat → List Char → Option (List (List String × String × Toml) × List Char)
  | 0, _, _ => none
  | fuel + 1, depth, cs =>
    match keyValue? fuel depth cs with
    | none => none
    | some (kv, rest) =>
      match skipGap rest with
      | '\x7d' :: rest => some ([kv], rest)
      | ',' :: rest => (keys? fuel depth rest).map fun (kvs, rest) => (kv :: kvs, rest)
      | _ => none

def keyValue? : Nat → Nat → List Char → Option ((List String × String × Toml) × List Char)
  | 0, _, _ => none
  | fuel + 1, depth, cs =>
    match dottedKey? nestingLimit cs with
    | none => none
    | some (path, key, rest) =>
      match rest with
      | '=' :: rest =>
        (value? fuel depth (skipGap rest)).map fun (v, rest) => ((path, key, v), rest)
      | _ => none

end

def statement? (cs : List Char) : Option (Statement × List Char) :=
  match cs with
  | '[' :: '[' :: rest =>
    match dottedKey? nestingLimit rest with
    | some (path, key, ']' :: ']' :: rest) => some (.element path key, rest)
    | _ => none
  | '[' :: rest =>
    match dottedKey? nestingLimit rest with
    | some (path, key, ']' :: rest) => some (.header path key, rest)
    | _ => none
  | _ =>
    (keyValue? (2 * cs.length + 2) nestingLimit cs).map fun ((path, key, v), rest) =>
      (.keyValue path key v, rest)

def statements? : Nat → List Char → Option (List Statement)
  | 0, _ => none
  | fuel + 1, cs =>
    match skipLines (cs.length + 1) cs with
    | [] => some []
    | cs =>
      match statement? cs with
      | none => none
      | some (s, rest) =>
        match endOfLine? rest with
        | none => none
        | some rest => (statements? fuel rest).map (s :: ·)

def byteOrderMark : Char := '\ufeff'

def readChars? (cs : List Char) : Option Toml :=
  let cs := match cs with
    | c :: rest => if c == byteOrderMark then rest else cs
    | [] => []
  ((statements? (cs.length + 1) cs).bind ofStatements?).map (.table .header)

def read? (text : String) : Option Toml := readChars? text.toList

end Folio.Toml
