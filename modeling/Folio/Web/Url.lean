import Folio.Web.Host
/-!
Absolute URLs. Reading one brings it into its normal form: the scheme and a domain in lower case, dot
segments resolved, default ports left out, and everything else percent-encoded where it must be.
-/
set_option autoImplicit false

namespace Folio.Web

inductive UrlPath where
  /-- The path of a URL such as `mailto:x`. -/
  | opaquePath (text : List Char)
  | segments (parts : List (List Char))
  deriving Repr, DecidableEq

structure Url where
  scheme : List Char
  username : List Char
  password : List Char
  host : Option Host
  port : Option Nat
  path : UrlPath
  query : Option (List Char)
  fragment : Option (List Char)
  deriving Repr, DecidableEq

def specialSchemes : List (String × Nat) :=
  [("http", 80), ("https", 443), ("ws", 80), ("wss", 443), ("ftp", 21)]

def defaultPort? (scheme : List Char) : Option Nat := specialSchemes.lookup (String.ofList scheme)

def isFileScheme (scheme : List Char) : Bool := scheme == ['f', 'i', 'l', 'e']

def isSpecial (scheme : List Char) : Bool := isFileScheme scheme || (defaultPort? scheme).isSome

def isSchemeChar (c : Char) : Bool := c.isAlphanum || c == '+' || c == '-' || c == '.'

def scheme? (cs : List Char) : Option (List Char × List Char) :=
  match cs with
  | [] => none
  | c :: _ =>
    if !c.isAlpha then none
    else match cs.dropWhile isSchemeChar with
      | ':' :: rest => some ((cs.takeWhile isSchemeChar).map Char.toLower, rest)
      | _ => none

def isSlash (special : Bool) (c : Char) : Bool := c == '/' || (special && c == '\\')

def endsAuthority (special : Bool) (c : Char) : Bool := isSlash special c || c == '?' || c == '#'

def isDriveLetter : List Char → Bool
  | [c, d] => c.isAlpha && (d == ':' || d == '|')
  | _ => false

def isNormalDriveLetter : List Char → Bool
  | [c, ':'] => c.isAlpha
  | _ => false

def atLastSign (cs : List Char) : Option (List Char × List Char) :=
  match cs.reverse.span (· != '@') with
  | (after, _ :: before) => some (before.reverse, after.reverse)
  | (_, []) => none

def atPort (inside : Bool) : List Char → List Char × Option (List Char)
  | [] => ([], none)
  | c :: cs =>
    if c == ':' && !inside then ([], some cs)
    else
      let (host, port) := atPort (if c == '[' then true else if c == ']' then false else inside) cs
      (c :: host, port)

/-- The port of an authority, up to 65535; the default one is left out. -/
def port? (scheme : List Char) (cs : List Char) : Except UrlError (Option Nat) :=
  let digits := cs.takeWhile Text.isDigit
  match cs.dropWhile Text.isDigit with
  | [] =>
    let n := Text.valueOfDigits digits
    if 65535 < n then .error .invalidPort
    else .ok (if digits.isEmpty || some n == defaultPort? scheme then none else some n)
  | _ => .error .invalidPort

def isSingleDot (segment : List Char) : Bool :=
  ["." , "%2e"].contains (String.ofList (segment.map Char.toLower))

def isDoubleDot (segment : List Char) : Bool :=
  ["..", ".%2e", "%2e.", "%2e%2e"].contains (String.ofList (segment.map Char.toLower))

/-- Leaves out the last segment; a drive letter stays. -/
def shorten (file : Bool) (segments : List (List Char)) : List (List Char) :=
  if file && segments.length == 1 && (segments.getLast?.map isNormalDriveLetter).getD false then segments
  else segments.dropLast

def resolveDots (file : Bool) (done : List (List Char)) : List (List Char) → List (List Char)
  | [] => done
  | segment :: rest =>
    let segment := percentEncode inPathSet segment
    let ended := if rest.isEmpty then [[]] else []
    if isDoubleDot segment then resolveDots file (shorten file done ++ ended) rest
    else if isSingleDot segment then resolveDots file (done ++ ended) rest
    else
      let segment :=
        if file && done.isEmpty && isDriveLetter segment then [segment.headD ' ', ':'] else segment
      resolveDots file (done ++ [segment]) rest

/-- Of the empty segments at the start of a file's path none is kept but a last one. -/
def dropEmptySegments : List (List Char) → List (List Char)
  | [] :: s :: rest => dropEmptySegments (s :: rest)
  | segments => segments

def segmentsOf (scheme : List Char) (cs : List Char) : List (List Char) :=
  let file := isFileScheme scheme
  let segments := resolveDots file [] (Text.splitOn (isSlash (isSpecial scheme)) cs)
  if file then dropEmptySegments segments else segments

def pathAfterAuthority (scheme : List Char) (cs : List Char) : UrlPath :=
  match cs with
  | [] => .segments (if isSpecial scheme then [[]] else [])
  | c :: rest => .segments (segmentsOf scheme (if isSlash (isSpecial scheme) c then rest else cs))

def atQuery (scheme : List Char) (cs : List Char) :
    List Char × Option (List Char) × Option (List Char) :=
  let (body, fragment) := match cs.span (· != '#') with
    | (body, _ :: fragment) => (body, some (percentEncode inFragmentSet fragment))
    | (body, []) => (body, none)
  let set := if isSpecial scheme then inSpecialQuerySet else inQuerySet
  match body.span (· != '?') with
  | (path, _ :: query) => (path, some (percentEncode set query), fragment)
  | (path, []) => (path, none, fragment)

/-- The host of an authority; only schemes that are not special allow an empty one. -/
def authorityHost (scheme cs : List Char) : Except UrlError Host :=
  if !isSpecial scheme then Host.parseOpaque cs
  else if cs.isEmpty then .error .emptyHost
  else Host.parse cs

def parseAuthority (scheme : List Char) (cs : List Char) : Except UrlError Url := do
  let special := isSpecial scheme
  let authority := cs.takeWhile (!endsAuthority special ·)
  let rest := cs.dropWhile (!endsAuthority special ·)
  let (user, hostPort) := match atLastSign authority with
    | some (user, hostPort) => (some user, hostPort)
    | none => (none, authority)
  if user == some [] && hostPort.isEmpty && !rest.isEmpty then throw .emptyHost
  let (name, password) := (user.getD []).span (· != ':')
  let name := percentEncode inUserSet name
  let password := percentEncode inUserSet (password.drop 1)
  let (host, port) := atPort false hostPort
  let host ← authorityHost scheme host
  if host == .empty && (port.isSome || !name.isEmpty || !password.isEmpty) then throw .emptyHost
  let port ← port? scheme (port.getD [])
  let (path, query, fragment) := atQuery scheme rest
  let path := pathAfterAuthority scheme path
  return ⟨scheme, name, password, some host, port, path, query, fragment⟩

def parsePlain (scheme : List Char) (cs : List Char) : Url :=
  let (path, query, fragment) := atQuery scheme cs
  let path : UrlPath := match path with
    | '/' :: rest => .segments (segmentsOf scheme rest)
    | _ => .opaquePath (percentEncode inControlSet path)
  ⟨scheme, [], [], none, none, path, query, fragment⟩

/-- The host of a file; `localhost` is the same as none. -/
def fileHost (cs : List Char) : Except UrlError Host :=
  if cs.isEmpty then .ok .empty
  else (Host.parse cs).map fun h =>
    if h == .name ['l', 'o', 'c', 'a', 'l', 'h', 'o', 's', 't'] then .empty else h

def parseFile (scheme : List Char) (cs : List Char) : Except UrlError Url := do
  match cs with
  | a :: b :: rest =>
    if isSlash true a && isSlash true b then
      let name := rest.takeWhile (!endsAuthority true ·)
      let (name, rest) :=
        if isDriveLetter name then ([], rest) else (name, rest.dropWhile (!endsAuthority true ·))
      let host ← fileHost name
      let (path, query, fragment) := atQuery scheme rest
      let segments := match path with
        | c :: more => segmentsOf scheme (if isSlash true c then more else path)
        | [] => [[]]
      let host := if (segments.head?.map isNormalDriveLetter).getD false then .empty else host
      return ⟨scheme, [], [], some host, none, .segments segments, query, fragment⟩
    else plain
  | _ => plain
where
  plain : Except UrlError Url :=
    let (path, query, fragment) := atQuery scheme cs
    let path := match path with
      | c :: rest => if isSlash true c then rest else path
      | [] => []
    .ok ⟨scheme, [], [], some .empty, none, .segments (segmentsOf scheme path), query, fragment⟩

def isTrimmed (c : Char) : Bool := c.toNat ≤ 32

def isIgnored (c : Char) : Bool := c == '\t' || c == '\n' || c == '\r'

def Url.parseChars (cs : List Char) : Except UrlError Url :=
  let cs := ((cs.dropWhile isTrimmed).reverse.dropWhile isTrimmed).reverse.filter (!isIgnored ·)
  match scheme? cs with
  | none => .error .relativeWithoutBase
  | some (scheme, rest) =>
    if isFileScheme scheme then parseFile scheme rest
    else if isSpecial scheme then parseAuthority scheme (rest.dropWhile (isSlash true))
    else match rest with
      | '/' :: '/' :: rest => parseAuthority scheme rest
      | _ => .ok (parsePlain scheme rest)

def Url.parse (s : String) : Except UrlError Url := Url.parseChars s.toList

def UrlPath.text : UrlPath → List Char
  | .opaquePath cs => cs
  | .segments parts => parts.flatMap ('/' :: ·)

def Url.isHttp (u : Url) : Bool := ["http", "https"].contains (String.ofList u.scheme)

def isAbsoluteUrl (s : String) : Bool :=
  match Url.parse s with
  | .ok u => u.isHttp
  | .error _ => false

def optionalPart (mark : Char) : Option (List Char) → List Char
  | none => []
  | some cs => mark :: cs

def Url.target (u : Url) : List Char := u.path.text ++ optionalPart '?' u.query

def Url.credentials (u : Url) : List Char :=
  if u.username.isEmpty && u.password.isEmpty then []
  else u.username ++ (if u.password.isEmpty then [] else ':' :: u.password) ++ ['@']

/-- What stands between the scheme and the path. A path that starts with an empty segment must not
look like an authority. -/
def Url.authority (u : Url) : List Char :=
  match u.host with
  | some host =>
    ['/', '/'] ++ u.credentials ++ host.text ++ optionalPart ':' (u.port.map Text.decimal)
  | none =>
    match u.path with
    | .segments ([] :: _ :: _) => ['/', '.']
    | _ => []

def Url.text (u : Url) : String :=
  String.ofList (u.scheme ++ ':' :: (u.authority ++ u.target ++ optionalPart '#' u.fragment))

end Folio.Web
