import Folio.Edit.Request
import Folio.Json.Decode

set_option autoImplicit false

namespace Folio.Edit

open Json (Members members?)

def pointUnit : String := "PT"

def encodePoints (x : Double) : Json :=
  .object [("magnitude", .ofDouble x), ("unit", .string pointUnit)]

def decodeUnit? (j : Json) : Option Unit :=
  match j.asName? with
  | some name => if name == pointUnit then some () else none
  | none => none

def decodePoints? (j : Json) : Option Double := do
  let ms ← members? ["magnitude", "unit"] j
  let x ← ms.required "magnitude" Json.asDouble?
  let _ ← ms.required "unit" decodeUnit?
  some x

def Size.encode (s : Size) : Json :=
  .object [("height", encodePoints s.height), ("width", encodePoints s.width)]

def Size.decode? (j : Json) : Option Size := do
  let ms ← members? ["height", "width"] j
  let height ← ms.required "height" decodePoints?
  let width ← ms.required "width" decodePoints?
  some ⟨height, width⟩

def FontFamily.encode (f : FontFamily) : Json :=
  .object (("fontFamily", .string f.name) :: Json.member? "weight" .nat f.weight)

def FontFamily.decode? (j : Json) : Option FontFamily := do
  let ms ← members? ["fontFamily", "weight"] j
  let name ← ms.required "fontFamily" Json.asString?
  let weight ← ms.withDefault "weight" none (Json.asOptional? (Json.asNat? 65536))
  some ⟨name, weight⟩

def Color.encode (c : Color) : Json :=
  .object [("color", .object [("rgbColor",
    .object [("red", .ofSingle c.red), ("green", .ofSingle c.green), ("blue", .ofSingle c.blue)])])]

def Color.decode? (j : Json) : Option Color := do
  let outer ← members? ["color"] j
  let color ← outer.required "color" (members? ["rgbColor"])
  let ms ← color.required "rgbColor" (members? ["red", "green", "blue"])
  let red ← ms.required "red" Json.asSingle?
  let green ← ms.required "green" Json.asSingle?
  let blue ← ms.required "blue" Json.asSingle?
  some ⟨red, green, blue⟩

def encodeLink (url : String) : Json := .object [("url", .string url)]

def decodeLink? (j : Json) : Option String := do
  let ms ← members? ["url"] j
  ms.required "url" Json.asString?

def TextStyle.encode (s : TextStyle) : Json :=
  .object (Json.member? "bold" .bool s.bold ++ Json.member? "italic" .bool s.italic ++
    Json.member? "link" encodeLink s.link ++
    Json.member? "weightedFontFamily" FontFamily.encode s.font ++
    Json.member? "backgroundColor" Color.encode s.background ++
    Json.member? "fontSize" encodePoints s.size)

def TextStyle.decode? (j : Json) : Option TextStyle := do
  let ms ← members?
    ["bold", "italic", "link", "weightedFontFamily", "backgroundColor", "fontSize"] j
  let bold ← ms.withDefault "bold" none (Json.asOptional? Json.asBool?)
  let italic ← ms.withDefault "italic" none (Json.asOptional? Json.asBool?)
  let link ← ms.withDefault "link" none (Json.asOptional? decodeLink?)
  let font ← ms.withDefault "weightedFontFamily" none (Json.asOptional? FontFamily.decode?)
  let background ← ms.withDefault "backgroundColor" none (Json.asOptional? Color.decode?)
  let size ← ms.withDefault "fontSize" none (Json.asOptional? decodePoints?)
  some ⟨bold, italic, link, font, background, size⟩

def encodeLocation (index : Nat) : Json := .object [("index", .nat index)]

def decodeLocation? (j : Json) : Option Nat := do
  let ms ← members? ["index"] j
  ms.required "index" Json.asCount?

def Range.encode (r : Range) : Json :=
  .object [("startIndex", .nat r.start), ("endIndex", .nat r.stop)]

def Range.decode? (j : Json) : Option Range := do
  let ms ← members? ["startIndex", "endIndex"] j
  let start ← ms.required "startIndex" Json.asCount?
  let stop ← ms.required "endIndex" Json.asCount?
  some ⟨start, stop⟩

def HeadingLevel.name : HeadingLevel → String
  | 0 => "HEADING_1"
  | 1 => "HEADING_2"
  | 2 => "HEADING_3"
  | 3 => "HEADING_4"
  | 4 => "HEADING_5"
  | 5 => "HEADING_6"

def HeadingLevel.ofName? (name : String) : Option HeadingLevel :=
  [0, 1, 2, 3, 4, 5].find? fun level => name == HeadingLevel.name level

def encodeParagraphStyle (level : HeadingLevel) : Json :=
  .object [("namedStyleType", .string (HeadingLevel.name level))]

def decodeParagraphStyle? (j : Json) : Option HeadingLevel := do
  let ms ← members? ["namedStyleType"] j
  ms.required "namedStyleType" fun j => j.asName?.bind HeadingLevel.ofName?

namespace Request

def kindName : Request → String
  | .insertText .. => "insertText"
  | .styleParagraph .. => "updateParagraphStyle"
  | .styleText .. => "updateTextStyle"
  | .insertImage .. => "insertInlineImage"
  | .insertTable .. => "insertTable"
  | .delete .. => "deleteContentRange"

def body : Request → List (String × Json)
  | .insertText index text => [("location", encodeLocation index), ("text", .string text)]
  | .styleParagraph range level fields =>
    [("range", range.encode), ("paragraphStyle", encodeParagraphStyle level),
      ("fields", .string fields)]
  | .styleText range style fields =>
    [("range", range.encode), ("textStyle", style.encode), ("fields", .string fields)]
  | .insertImage index uri size =>
    [("location", encodeLocation index), ("uri", .string uri)] ++
      Json.member? "objectSize" Size.encode size
  | .insertTable index rows columns =>
    [("location", encodeLocation index), ("rows", .nat rows), ("columns", .nat columns)]
  | .delete range => [("range", range.encode)]

def encode (r : Request) : Json := .object [(r.kindName, .object r.body)]

def decodeInsertText? (j : Json) : Option Request := do
  let ms ← members? ["location", "text"] j
  let index ← ms.required "location" decodeLocation?
  let text ← ms.required "text" Json.asString?
  some (.insertText index text)

def decodeStyleParagraph? (j : Json) : Option Request := do
  let ms ← members? ["range", "paragraphStyle", "fields"] j
  let range ← ms.required "range" Range.decode?
  let level ← ms.required "paragraphStyle" decodeParagraphStyle?
  let fields ← ms.required "fields" Json.asString?
  some (.styleParagraph range level fields)

def decodeStyleText? (j : Json) : Option Request := do
  let ms ← members? ["range", "textStyle", "fields"] j
  let range ← ms.required "range" Range.decode?
  let style ← ms.required "textStyle" TextStyle.decode?
  let fields ← ms.required "fields" Json.asString?
  some (.styleText range style fields)

def decodeInsertImage? (j : Json) : Option Request := do
  let ms ← members? ["location", "uri", "objectSize"] j
  let index ← ms.required "location" decodeLocation?
  let uri ← ms.required "uri" Json.asString?
  let size ← ms.withDefault "objectSize" none (Json.asOptional? Size.decode?)
  some (.insertImage index uri size)

def decodeInsertTable? (j : Json) : Option Request := do
  let ms ← members? ["location", "rows", "columns"] j
  let index ← ms.required "location" decodeLocation?
  let rows ← ms.required "rows" Json.asCount?
  let columns ← ms.required "columns" Json.asCount?
  some (.insertTable index rows columns)

def decodeDelete? (j : Json) : Option Request := do
  let ms ← members? ["range"] j
  let range ← ms.required "range" Range.decode?
  some (.delete range)

def decode? : Json → Option Request
  | .object [(kind, j)] =>
    match kind with
    | "insertText" => decodeInsertText? j
    | "updateParagraphStyle" => decodeStyleParagraph? j
    | "updateTextStyle" => decodeStyleText? j
    | "insertInlineImage" => decodeInsertImage? j
    | "insertTable" => decodeInsertTable? j
    | "deleteContentRange" => decodeDelete? j
    | _ => none
  | _ => none

end Request

def encodeBatch (requests : List Request) : Json :=
  .object [("requests", .array (requests.map Request.encode))]

def decodeRequests? : Json → Option (List Request) := Json.asList? Request.decode?

end Folio.Edit
