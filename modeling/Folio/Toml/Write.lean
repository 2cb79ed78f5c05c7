import Folio.Number.Shortest
import Folio.Text.Hex
/-!
Values as TOML text. A string is written in the first of three forms that suits it: in double quotes
if nothing in it needs an escape, in single quotes if it has none of these and no line feed, and
else over several lines.
-/
set_option autoImplicit false

namespace Folio.Toml

def needsCode (c : Char) : Bool :=
  (c.toNat < 32 && c != '\t' && c != '\n') || c.toNat == 127

def longestRun (x : Char) (cs : List Char) : Nat :=
  (cs.foldl (fun (best, now) c => if c == x then (max best (now + 1), now + 1) else (best, 0))
    (0, 0)).1

def isPlain (cs : List Char) : Bool :=
  !cs.any fun c => needsCode c || c == '\\' || c == '"' || c == '\n'

def isLiteral (cs : List Char) : Bool :=
  !cs.any fun c => needsCode c || c == '\'' || c == '\n'

def isLongPlain (cs : List Char) : Bool :=
  !cs.any (fun c => needsCode c || c == '\\') && longestRun '"' cs ≤ 2

def isLongLiteral (cs : List Char) : Bool := !cs.any needsCode && longestRun '\'' cs ≤ 2

def codeEscape (c : Char) : List Char :=
  match c with
  | '\x08' => ['\\', 'b']
  | '\t' => ['\\', 't']
  | '\n' => ['\\', 'n']
  | '\x0c' => ['\\', 'f']
  | '\r' => ['\\', 'r']
  | '\\' => ['\\', '\\']
  | c => ['\\', 'u', '0', '0'] ++ (Text.hexOfByte (UInt8.ofNat c.toNat)).map Char.toUpper

/-- Escapes what must not stand in double quotes. `quotes` counts the quotes just before; as many as
`allowed` may stand together. -/
def escaped (long : Bool) (allowed quotes : Nat) : List Char → List Char
  | [] => []
  | c :: cs =>
    if c == '"' then
      if quotes < allowed then '"' :: escaped long allowed (quotes + 1) cs
      else '\\' :: '"' :: escaped long allowed 0 cs
    else if c == '\n' && long then '\n' :: escaped long allowed 0 cs
    else if c == '\\' || c == '\t' || c == '\n' || needsCode c then
      codeEscape c ++ escaped long allowed 0 cs
    else c :: escaped long allowed 0 cs

def short (s : List Char) : List Char := '"' :: (escaped false 0 0 s ++ ['"'])

def long (quote : Char) (firstLine : List Char) (body : List Char) : List Char :=
  let marks := List.replicate 3 quote
  marks ++ firstLine ++ body ++ marks

def writeString (s : String) : List Char :=
  let cs := s.toList
  let firstLine := if cs.contains '\n' then ['\n'] else []
  if isPlain cs then short cs
  else if isLiteral cs then '\'' :: (cs ++ ['\''])
  else if isLongPlain cs then long '"' firstLine (escaped true 2 0 cs)
  else if isLongLiteral cs then long '\'' firstLine cs
  else if cs.contains '\n' then long '"' firstLine (escaped true 2 0 cs)
  else short cs

def everywherePositional : FloatLayout := ⟨none, none⟩

def writeFloat (x : Double) : List Char :=
  if x.isFinite then x.write everywherePositional
  else (if x.negative then ['-'] else []) ++
    if x.isInfinite then ['i', 'n', 'f'] else ['n', 'a', 'n']

def writeBool (b : Bool) : List Char := (if b then "true" else "false").toList

def writeStrings : List String → List Char
  | [] => ['[', ']']
  | [s] => '[' :: (writeString s ++ [']'])
  | ss => '[' :: (ss.flatMap fun s => "\n    ".toList ++ writeString s ++ [',']) ++ ['\n', ']']

end Folio.Toml
