import Folio.Json.Decode

set_option autoImplicit false

namespace Folio

inductive TableStrategy where
  | native
  | image
  deriving Repr, DecidableEq

def TableStrategy.name : TableStrategy → String
  | .native => "native"
  | .image => "image"

def TableStrategy.ofName? (name : String) : Option TableStrategy :=
  [.native, .image].find? fun s => name == s.name

/-- The size of every picture, in points. -/
structure ImageSize where
  width : Double
  height : Double
  deriving Repr, DecidableEq

structure ExportOptions where
  /-- Headings also get a font size and weight of their own. -/
  headingTextStyles : Bool
  tableStrategy : TableStrategy
  diagramLanguages : List String
  strictTables : Bool
  bullet : String
  /-- The service chooses a size when there is none. -/
  imageSize : Option ImageSize
  deriving Repr, DecidableEq

def ExportOptions.default : ExportOptions :=
  ⟨false, .native, ["mermaid"], false, "• ", none⟩

def equalIgnoringCase (s t : String) : Bool :=
  s.toList.map Char.toLower == t.toList.map Char.toLower

/-- ASCII letters are compared without regard to case. -/
def ExportOptions.isDiagramLanguage (o : ExportOptions) (lang : String) : Bool :=
  o.diagramLanguages.any (equalIgnoringCase · lang)

def ImageSize.encode (s : ImageSize) : Json :=
  .object [("width_pt", .ofDouble s.width), ("height_pt", .ofDouble s.height)]

def ImageSize.decode? (r : Json.Rules) (j : Json) : Option ImageSize := do
  let ms ← r.members? ["width_pt", "height_pt"] j
  let width ← ms.required "width_pt" Json.asDouble?
  let height ← ms.required "height_pt" Json.asDouble?
  some ⟨width, height⟩

def decodeTableStrategy? (r : Json.Rules) (j : Json) : Option TableStrategy :=
  (r.asName? j).bind TableStrategy.ofName?

namespace ExportOptions

def encode (o : ExportOptions) : Json :=
  .object ([("heading_text_styles", .bool o.headingTextStyles),
    ("table_strategy", .string o.tableStrategy.name),
    ("diagram_languages", .array (o.diagramLanguages.map .string)),
    ("strict_tables", .bool o.strictTables), ("bullet", .string o.bullet)] ++
    Json.member? "image_size" ImageSize.encode o.imageSize)

def decode? (r : Json.Rules) (j : Json) : Option ExportOptions := do
  let d := default
  let ms ← r.members? ["heading_text_styles", "table_strategy", "diagram_languages",
    "strict_tables", "bullet", "image_size"] j
  let headings ← ms.withDefault "heading_text_styles" d.headingTextStyles Json.asBool?
  let strategy ← ms.withDefault "table_strategy" d.tableStrategy (decodeTableStrategy? r)
  let languages ← ms.withDefault "diagram_languages" d.diagramLanguages
    (Json.asList? Json.asString?)
  let strict ← ms.withDefault "strict_tables" d.strictTables Json.asBool?
  let bullet ← ms.withDefault "bullet" d.bullet Json.asString?
  let size ← ms.withDefault "image_size" d.imageSize (Json.asOptional? (ImageSize.decode? r))
  some ⟨headings, strategy, languages, strict, bullet, size⟩

end ExportOptions

end Folio
