import Folio.Json.Basic
import Folio.Text.Hex

set_option autoImplicit false

namespace Folio.Json

def doubleLayout : FloatLayout := ⟨some (-5), some 16⟩

def singleLayout : FloatLayout := ⟨some (-6), some 13⟩

def Number.write : Number → List Char
  | .natural n => Text.decimal n
  | .negative n => '-' :: Text.decimal n
  | .double x => x.write doubleLayout
  | .single x => x.write singleLayout

def escapeChar (c : Char) : List Char :=
  match c with
  | '"' => ['\\', '"']
  | '\\' => ['\\', '\\']
  | '\x08' => ['\\', 'b']
  | '\x0c' => ['\\', 'f']
  | '\n' => ['\\', 'n']
  | '\r' => ['\\', 'r']
  | '\t' => ['\\', 't']
  | c => if c.toNat < 32 then '\\' :: 'u' :: '0' :: '0' :: Text.hexOfByte (UInt8.ofNat c.toNat) else [c]

def quoted (s : String) : List Char := '"' :: (s.toList.flatMap escapeChar ++ ['"'])

mutual

def write : Json → List Char
  | .null | .unreadable => ['n', 'u', 'l', 'l']
  | .bool true => ['t', 'r', 'u', 'e']
  | .bool false => ['f', 'a', 'l', 's', 'e']
  | .number n => n.write
  | .string s => quoted s
  | .array items => '[' :: (writeItems items ++ [']'])
  | .object members => '\x7b' :: (writeMembers members ++ ['\x7d'])

def writeItems : List Json → List Char
  | [] => []
  | [v] => v.write
  | v :: vs => v.write ++ ',' :: writeItems vs

def writeMembers : List (String × Json) → List Char
  | [] => []
  | [(name, v)] => quoted name ++ ':' :: v.write
  | (name, v) :: ms => quoted name ++ ':' :: (v.write ++ ',' :: writeMembers ms)

end

def newLine (depth : Nat) : List Char := '\n' :: List.replicate (2 * depth) ' '

mutual

def indented (depth : Nat) : Json → List Char
  | .array [] => ['[', ']']
  | .array items => '[' :: (indentedItems (depth + 1) items ++ newLine depth ++ [']'])
  | .object [] => ['\x7b', '\x7d']
  | .object members => '\x7b' :: (indentedMembers (depth + 1) members ++ newLine depth ++ ['\x7d'])
  | v => v.write

def indentedItems (depth : Nat) : List Json → List Char
  | [] => []
  | [v] => newLine depth ++ v.indented depth
  | v :: vs => newLine depth ++ (v.indented depth ++ ',' :: indentedItems depth vs)

def indentedMembers (depth : Nat) : List (String × Json) → List Char
  | [] => []
  | [(name, v)] => newLine depth ++ (quoted name ++ ':' :: ' ' :: v.indented depth)
  | (name, v) :: ms =>
    newLine depth ++ (quoted name ++ ':' :: ' ' :: (v.indented depth ++ ',' :: indentedMembers depth ms))

end

def compactText (v : Json) : String := String.ofList v.write

def indentedText (v : Json) : String := String.ofList (v.indented 0)

end Folio.Json
