import Folio.Text.Hex
import Folio.Text.Punctuation
import Folio.Text.Split
import Folio.Markdown.EntityNames
import Folio.Markdown.Marker

set_option autoImplicit false

namespace Folio.Markdown

def isHexDigit (c : Char) : Bool := (Text.nibble? c).isSome

def isLetter (c : Char) : Bool := ('a' ≤ c && c ≤ 'z') || ('A' ≤ c && c ≤ 'Z')

def isAlphanumeric (c : Char) : Bool := isLetter c || isDigit c

/-- Zero, surrogates and numbers beyond Unicode stand for the replacement character. -/
def charOfCode (n : Nat) : Char :=
  if n == 0 || (0xd800 ≤ n && n < 0xe000) || 0x110000 ≤ n then '\ufffd' else Char.ofNat n

def entityTable : List (List Char × List Char) :=
  (Text.words entityNames).map fun entry =>
    match Text.splitOn (· == ':') entry with
    | [name, codes] =>
      (name, (Text.splitOn (· == '+') codes).map fun h => Char.ofNat (Text.hexNumber h))
    | _ => ([], [])

def codeReference? (limit : Nat) (isDigitOf : Char → Bool) (value : List Char → Nat)
    (cs : List Char) : Option (Nat × List Char) :=
  let n := countWhile isDigitOf (cs.take limit)
  if n == 0 then none
  else match cs.drop n with
    | ';' :: _ => some (n + 1, [charOfCode (value (cs.take n))])
    | _ => none

def reference? : List Char → Option (Nat × List Char)
  | '&' :: '#' :: x :: cs =>
    if x == 'x' || x == 'X' then (codeReference? 6 isHexDigit Text.hexNumber cs).map fun (n, v) => (n + 3, v)
    else (codeReference? 7 isDigit decimalValue (x :: cs)).map fun (n, v) => (n + 2, v)
  | '&' :: cs =>
    let n := countWhile isAlphanumeric cs
    match cs.drop n with
    | ';' :: _ =>
      let name := cs.take n
      (entityTable.find? (·.1 == name)).map fun (_, value) => (n + 2, value)
    | _ => none
  | _ => none

/-- Resolves escapes and character references; carriage returns vanish. Inside a table, a bar after
two backslashes stands for itself. -/
def unescapeFrom (inTable : Bool) : Nat → List Char → List Char
  | 0, cs => cs
  | _, [] => []
  | fuel + 1, c :: cs =>
    match c, cs with
    | '\\', d :: e :: rest =>
      if inTable && d == '\\' && e == '|' then '|' :: unescapeFrom inTable fuel rest
      else if Text.isAsciiPunctuation d then d :: unescapeFrom inTable fuel (e :: rest)
      else '\\' :: unescapeFrom inTable fuel (d :: e :: rest)
    | '\\', [d] => if Text.isAsciiPunctuation d then [d] else ['\\', d]
    | '\r', cs => unescapeFrom inTable fuel cs
    | '&', cs =>
      match reference? ('&' :: cs) with
      | some (n, value) => value ++ unescapeFrom inTable fuel (('&' :: cs).drop n)
      | none => '&' :: unescapeFrom inTable fuel cs
    | c, cs => c :: unescapeFrom inTable fuel cs

def unescape (inTable : Bool) (cs : List Char) : List Char := unescapeFrom inTable cs.length cs

end Folio.Markdown
