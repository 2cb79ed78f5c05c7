set_option autoImplicit false

namespace Folio.Text

def splitOn (sep : Char → Bool) (cs : List Char) : List (List Char) :=
  cs.foldr (fun c parts =>
    match sep c, parts with
    | true, parts => [] :: parts
    | false, part :: parts => (c :: part) :: parts
    | false, [] => [[c]]) [[]]

def words (text : String) : List (List Char) :=
  (splitOn (fun c => c == ' ' || c == '\n') text.toList).filter (!·.isEmpty)

end Folio.Text
