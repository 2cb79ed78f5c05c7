import Folio.Command.Run

set_option autoImplicit false

namespace Folio.Local

/-- The files of this computer. A file that may not be opened is there all the same. -/
def files : File.Access IO where
  isPresent path := do
    try
      discard (IO.FS.Handle.mk path .read)
      return true
    catch e =>
      match e with
      | .permissionDenied .. => return true
      | _ => return false
  read? path := do
    try
      return some (← IO.FS.readBinFile path).toList
    catch _ => return none
  save path content := do
    try
      let directory := File.directoryPart path
      unless directory.isEmpty do IO.FS.createDirAll directory
      IO.FS.writeBinFile path ⟨content.toArray⟩
      return true
    catch _ => return false

/-- This build has no connection to a network, so nothing that is sent is answered. -/
def noNetwork : Http.Transport IO := fun _ => return none

def isAbsolutePath (path : String) : Bool := path.toList.head? == some '/'

def configHome (chosen home : Option String) : String :=
  match chosen.filter isAbsolutePath, Config.nonEmpty home with
  | some directory, _ => directory
  | none, some directory => directory ++ "/.config"
  | none, none => "."

def environment : IO Command.Environment := do
  return ⟨← IO.getEnv "QUIRE_CONFIG",
    ⟨← IO.getEnv "QUIRE_ACCESS_TOKEN", ← IO.getEnv "QUIRE_DOCS_ENDPOINT"⟩,
    configHome (← IO.getEnv "XDG_CONFIG_HOME") (← IO.getEnv "HOME")⟩

end Folio.Local

open Folio in
def main (args : List String) : IO UInt32 := do
  let outcome ← Command.run Local.files Local.noNetwork (← Local.environment) args
  IO.print outcome.output
  IO.eprint outcome.errors
  return outcome.exitCode.toUInt32
