import Folio.Config.Basic
import Folio.Json.Read
import Folio.Json.Write
import Folio.Toml.Read
import Folio.Toml.Write

set_option autoImplicit false

namespace Folio

inductive ConfigFormat where
  | json
  | toml
  deriving Repr, DecidableEq

namespace Config

/-- In TOML an empty table or array stands for nothing at all, and arrays may be longer than the
structures they stand for. -/
def tomlRules : Json.Rules where
  extraItems := true
  isUnit
    | .object ms => ms.isEmpty
    | .array vs => vs.isEmpty
    | _ => false

def ofToml? (text : String) : Option Config :=
  (Toml.read? text).bind fun t => decode? tomlRules t.toJson

def ofJson? (text : String) : Option Config := (Json.read? text).bind (decode? .strict)

def tomlLine (name : String) (value : List Char) : List Char :=
  name.toList ++ [' ', '=', ' '] ++ value ++ ['\n']

def tomlHeader (name : String) : List Char := '\n' :: '[' :: (name.toList ++ [']', '\n'])

def optionalLine (name : String) : Option String → List Char
  | none => []
  | some s => tomlLine name (Toml.writeString s)

def storeToml (c : AssetStoreConfig) : List Char :=
  tomlHeader "asset_store" ++ tomlLine "upload_base" (Toml.writeString c.uploadBase) ++
    tomlLine "public_base" (Toml.writeString c.publicBase) ++ optionalLine "upload_token" c.uploadToken

def rendererToml (c : RendererConfig) : List Char :=
  tomlHeader "renderer" ++ tomlLine "endpoint" (Toml.writeString c.endpoint) ++
    tomlLine "theme" (Toml.writeString c.theme) ++
    tomlLine "background_color" (Toml.writeString c.backgroundColor) ++
    tomlLine "scale" (Toml.writeFloat c.scale.convert)

def imageSizeToml : Option ImageSize → List Char
  | none => []
  | some size =>
    tomlHeader "export.image_size" ++ tomlLine "width_pt" (Toml.writeFloat size.width) ++
      tomlLine "height_pt" (Toml.writeFloat size.height)

def optionsToml (o : ExportOptions) : List Char :=
  tomlHeader "export" ++ tomlLine "heading_text_styles" (Toml.writeBool o.headingTextStyles) ++
    tomlLine "table_strategy" (Toml.writeString o.tableStrategy.name) ++
    tomlLine "diagram_languages" (Toml.writeStrings o.diagramLanguages) ++
    tomlLine "strict_tables" (Toml.writeBool o.strictTables) ++
    tomlLine "bullet" (Toml.writeString o.bullet) ++ imageSizeToml o.imageSize

def toToml (c : Config) : String :=
  String.ofList (tomlLine "docs_endpoint" (Toml.writeString c.docsEndpoint) ++
    optionalLine "access_token" c.accessToken ++ storeToml c.assetStore ++
    rendererToml c.renderer ++ optionsToml c.options)

def toText (c : Config) : ConfigFormat → String
  | .json => c.encode.indentedText
  | .toml => c.toToml

def ofText? (text : String) : ConfigFormat → Option Config
  | .json => ofJson? text
  | .toml => ofToml? text

end Config

end Folio
