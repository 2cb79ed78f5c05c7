import Folio.Service.Error

set_option autoImplicit false

namespace Folio

inductive TableError where
  | placeholderMissing (expected missing : Nat)
  | countMismatch (expected found : Nat)
  | shapeMismatch (ordinal rows columns foundRows foundColumns : Nat)
  | nestedUnsupported (ordinals : List Nat)
  | ambiguousPlaceholder (ordinals : List Nat)
  | service (e : ServiceError)
  deriving Repr, DecidableEq

namespace TableError

def listText (ns : List Nat) : String := "[" ++ ", ".intercalate (ns.map Nat.repr) ++ "]"

def message : TableError → String
  | .placeholderMissing expected missing =>
    missing.repr ++ " of " ++ expected.repr ++ " table placeholders were not found in the document"
  | .countMismatch expected found =>
    "expected " ++ expected.repr ++ " tables after inserting skeletons, found " ++ found.repr
  | .shapeMismatch ordinal rows columns foundRows foundColumns =>
    "table " ++ ordinal.repr ++ " has " ++ foundRows.repr ++ "x" ++ foundColumns.repr ++
      " cells, expected " ++ rows.repr ++ "x" ++ columns.repr
  | .nestedUnsupported ordinals =>
    "tables " ++ listText ordinals ++ " are nested inside other tables, which is not supported"
  | .ambiguousPlaceholder ordinals =>
    "markers for tables " ++ listText ordinals ++
      " appear more than once, so none were replaced"
  | .service _ => "document service failed during table materialization"

def code : TableError → String
  | .placeholderMissing .. => "quire::tables::placeholder_missing"
  | .countMismatch .. => "quire::tables::count_mismatch"
  | .shapeMismatch .. => "quire::tables::shape_mismatch"
  | .nestedUnsupported _ => "quire::tables::nested"
  | .ambiguousPlaceholder _ => "quire::tables::ambiguous_placeholder"
  | .service _ => "quire::tables::service"

end TableError

end Folio
