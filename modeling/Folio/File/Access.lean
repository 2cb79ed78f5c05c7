import Folio.File.Tree

set_option autoImplicit false

namespace Folio.File

structure Access (m : Type → Type) where
  isPresent : (path : String) → m Bool
  read? : (path : String) → m (Option (List UInt8))
  save : (path : String) → (content : List UInt8) → m Bool

def Tree.access : Access (StateM Tree) where
  isPresent path := do return (← get).contains path
  read? path := do return (← get).read? path
  save path content := modifyGet fun t => t.save path content

def Access.readText? {m : Type → Type} [Monad m] (files : Access m) (path : String) :
    m (Option String) := do
  return (← files.read? path).bind Text.utf8Text?

end Folio.File
