import Folio.Text.Split
import Folio.Text.Utf8

set_option autoImplicit false

namespace Folio.File

def splitSlashes : List Char → List (List Char) := Text.splitOn (· == '/')

def saysNothing (name : List Char) : Bool := name.isEmpty || name == ['.']

def up : List Char := ['.', '.']

def names (path : String) : List (List Char) :=
  (splitSlashes path.toList).filter (!saysNothing ·)

/-- Whether a path can only mean a directory: it ends with a slash, `.` or `..`. -/
def meansDirectory (path : String) : Bool :=
  match (splitSlashes path.toList).getLast? with
  | some name => saysNothing name || name == up
  | none => true

def fileName? (path : String) : Option (List Char) :=
  match (names path).getLast? with
  | some name => if name == up then none else some name
  | none => none

/-- Splits a name at its last dot. A dot at the start does not count. -/
def splitName (name : List Char) : List Char × Option (List Char) :=
  match name.reverse.span (· != '.') with
  | (_, []) | (_, ['.']) => (name, none)
  | (extension, _ :: stem) => (stem.reverse, some extension.reverse)

def extension? (path : String) : Option String :=
  (fileName? path).bind fun name => (splitName name).2.map String.ofList

def stem? (path : String) : Option String :=
  (fileName? path).map fun name => String.ofList (splitName name).1

def directoryPart (path : String) : String :=
  String.ofList ((path.toList.reverse.dropWhile (· == '/')).dropWhile (· != '/')).reverse

/-- A name has at most 255 bytes, none of them zero. -/
def isName (name : List Char) : Bool :=
  (Text.utf8Bytes (String.ofList name)).length ≤ 255 && !name.contains '\x00'

end Folio.File
