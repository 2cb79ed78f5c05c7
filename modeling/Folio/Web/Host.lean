import Folio.Web.Percent
import Folio.Web.Domain
import Folio.Text.Decimal

set_option autoImplicit false

namespace Folio.Web

open Text (splitOn)

inductive UrlError where
  | emptyHost
  | internationalName
  | invalidPort
  | invalidIpv4
  | invalidIpv6
  | invalidHostCharacter
  | relativeWithoutBase
  deriving Repr, DecidableEq

def UrlError.message : UrlError → String
  | .emptyHost => "empty host"
  | .internationalName => "invalid international domain name"
  | .invalidPort => "invalid port number"
  | .invalidIpv4 => "invalid IPv4 address"
  | .invalidIpv6 => "invalid IPv6 address"
  | .invalidHostCharacter => "invalid domain character"
  | .relativeWithoutBase => "relative URL without a base"

inductive Host where
  | name (text : List Char)
  | ipv4 (address : Nat)
  | ipv6 (pieces : List Nat)
  deriving Repr, DecidableEq

def isDot (c : Char) : Bool := c == '.'

def valueInBase (base : Nat) (cs : List Char) : Option Nat :=
  cs.foldl (fun value c => value.bind fun n =>
    match Text.nibble? c with
    | some d => if d < base then some (base * n + d) else none
    | none => none) (some 0)

/-- A number of an IPv4 address: hexadecimal after `0x`, octal after `0`, else decimal. -/
def ipv4Number? : List Char → Option Nat
  | [] => none
  | '0' :: 'x' :: cs | '0' :: 'X' :: cs => valueInBase 16 cs
  | '0' :: c :: cs => valueInBase 8 (c :: cs)
  | cs => valueInBase 10 cs

/-- Whether a name is meant as an IPv4 address: its last part is a number. -/
def endsInNumber (name : List Char) : Bool :=
  let parts := (splitOn isDot name).reverse
  let last : Option (List Char) := match parts with
    | [] :: part :: _ => some part
    | [] :: [] => none
    | part :: _ => some part
    | [] => none
  match last with
  | none => false
  | some part => (!part.isEmpty && part.all Text.isDigit) || (ipv4Number? part).isSome

/-- The address of at most four numbers; the last one fills what the others leave. -/
def ipv4Address? (name : List Char) : Option Nat :=
  let parts := splitOn isDot name
  let parts := if parts.getLast? == some [] then parts.dropLast else parts
  if 4 < parts.length then none
  else match parts.mapM ipv4Number? with
    | none => none
    | some numbers =>
      let init := numbers.dropLast
      let last := numbers.getLastD 0
      if init.all (· ≤ 255) && last < Nat.pow 256 (4 - init.length) then
        some (init.zipIdx.foldl (fun sum (n, i) => sum + n * Nat.pow 256 (3 - i)) last)
      else none

def octet? (cs : List Char) : Option Nat :=
  match cs with
  | [] => none
  | '0' :: _ :: _ => none
  | _ =>
    if cs.all Text.isDigit && cs.length ≤ 3 && Text.valueOfDigits cs ≤ 255 then
      some (Text.valueOfDigits cs)
    else none

def ipv6Piece? (cs : List Char) : Option Nat :=
  if cs.isEmpty || 4 < cs.length then none else valueInBase 16 cs

/-- Pieces separated by colons; the last one may be an IPv4 address, which makes two. -/
def ipv6Pieces? : List (List Char) → Option (List Nat)
  | [] => some []
  | [last] =>
    if last.any isDot then
      match (splitOn isDot last).mapM octet? with
      | some [a, b, c, d] => some [a * 256 + b, c * 256 + d]
      | _ => none
    else (ipv6Piece? last).map fun n => [n]
  | part :: parts =>
    match ipv6Piece? part, ipv6Pieces? parts with
    | some n, some ns => some (n :: ns)
    | _, _ => none

def atDoubleColon : List Char → Option (List Char × List Char)
  | ':' :: ':' :: rest => some ([], rest)
  | c :: rest => (atDoubleColon rest).map fun (a, b) => (c :: a, b)
  | [] => none

def colonParts (cs : List Char) : List (List Char) :=
  if cs.isEmpty then [] else splitOn (· == ':') cs

def ipv6Address? (cs : List Char) : Option (List Nat) :=
  match atDoubleColon cs with
  | none =>
    match ipv6Pieces? (colonParts cs) with
    | some ns => if ns.length == 8 then some ns else none
    | none => none
  | some (before, after) =>
    if (before.any isDot) then none
    else match ipv6Pieces? (colonParts before), ipv6Pieces? (colonParts after) with
      | some ns, some ms =>
        if ns.length + ms.length < 8 then
          some (ns ++ List.replicate (8 - ns.length - ms.length) 0 ++ ms)
        else none
      | _, _ => none

def bracketed? : List Char → Option (Except UrlError Host)
  | '[' :: rest =>
    match rest.reverse with
    | ']' :: inner =>
      match ipv6Address? inner.reverse with
      | some pieces => some (.ok (.ipv6 pieces))
      | none => some (.error .invalidIpv6)
    | _ => some (.error .invalidIpv6)
  | _ => none

def Host.parse (cs : List Char) : Except UrlError Host :=
  match bracketed? cs with
  | some host => host
  | none =>
    match (Text.utf8Text? (percentDecode cs)).bind fun s => domainToAscii? s.toList with
    | none => .error .internationalName
    | some [] => .error .emptyHost
    | some domain =>
      if endsInNumber domain then
        match ipv4Address? domain with
        | some n => .ok (.ipv4 n)
        | none => .error .invalidIpv4
      else .ok (.name domain)

def isForbiddenInHost (c : Char) : Bool :=
  ['\x00', '\t', '\n', '\r', ' ', '#', '/', ':', '<', '>', '?', '@', '[', '\\', ']', '^', '|'].contains c

def Host.parseOpaque (cs : List Char) : Except UrlError Host :=
  match bracketed? cs with
  | some host => host
  | none =>
    if cs.any isForbiddenInHost then .error .invalidHostCharacter
    else .ok (.name (percentEncode inControlSet cs))

def hexadecimal (n : Nat) : List Char := Nat.toDigits 16 n

def zeroRuns : List Nat → List Nat
  | [] => []
  | n :: ns =>
    let runs := zeroRuns ns
    (if n == 0 then runs.headD 0 + 1 else 0) :: runs

/-- The first of the longest runs of at least two zeros is left out. -/
def writeIpv6 (pieces : List Nat) : List Char :=
  let runs := zeroRuns pieces
  let longest := runs.foldl max 0
  let write (ns : List Nat) : List Char := [':'].intercalate (ns.map hexadecimal)
  if longest < 2 then write pieces
  else
    let start := runs.idxOf longest
    write (pieces.take start) ++ [':', ':'] ++ write (pieces.drop (start + longest))

def Host.empty : Host := .name []

def Host.text : Host → List Char
  | .name cs => cs
  | .ipv4 n =>
    ['.'].intercalate ([n / 0x1000000, n / 0x10000 % 256, n / 256 % 256, n % 256].map Text.decimal)
  | .ipv6 pieces => '[' :: (writeIpv6 pieces ++ [']'])

end Folio.Web
