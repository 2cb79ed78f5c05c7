import Folio.Asset.Basic
import Folio.Config.Options

set_option autoImplicit false

namespace Folio

structure AssetStoreConfig where
  uploadBase : String
  publicBase : String
  uploadToken : Option String
  deriving Repr, DecidableEq

structure RendererConfig where
  endpoint : String
  theme : String
  backgroundColor : String
  /-- Device pixels per pixel. -/
  scale : Single
  deriving Repr, DecidableEq

structure Config where
  docsEndpoint : String
  accessToken : Option String
  assetStore : AssetStoreConfig
  renderer : RendererConfig
  options : ExportOptions
  deriving Repr, DecidableEq

def AssetStoreConfig.default : AssetStoreConfig :=
  ⟨"http://localhost:9000/quire-assets", "http://localhost:9000/quire-assets", none⟩

def RendererConfig.default : RendererConfig :=
  ⟨"https://kroki.io", "default", "#ffffff", .ofNat 2⟩

def Config.default : Config :=
  ⟨"https://docs.googleapis.com", none, .default, .default, .default⟩

/-- Pictures may use what other sites provide. -/
def RendererConfig.captureOptions (r : RendererConfig) : CaptureOptions :=
  ⟨r.backgroundColor, r.scale, true⟩

def AssetStoreConfig.encode (c : AssetStoreConfig) : Json :=
  .object ([("upload_base", .string c.uploadBase), ("public_base", .string c.publicBase)] ++
    Json.member? "upload_token" .string c.uploadToken)

def AssetStoreConfig.decode? (r : Json.Rules) (j : Json) : Option AssetStoreConfig := do
  let d := default
  let ms ← r.members? ["upload_base", "public_base", "upload_token"] j
  let uploadBase ← ms.withDefault "upload_base" d.uploadBase Json.asString?
  let publicBase ← ms.withDefault "public_base" d.publicBase Json.asString?
  let token ← ms.withDefault "upload_token" d.uploadToken (Json.asOptional? Json.asString?)
  some ⟨uploadBase, publicBase, token⟩

def RendererConfig.encode (c : RendererConfig) : Json :=
  .object [("endpoint", .string c.endpoint), ("theme", .string c.theme),
    ("background_color", .string c.backgroundColor), ("scale", .ofSingle c.scale)]

def RendererConfig.decode? (r : Json.Rules) (j : Json) : Option RendererConfig := do
  let d := default
  let ms ← r.members? ["endpoint", "theme", "background_color", "scale"] j
  let endpoint ← ms.withDefault "endpoint" d.endpoint Json.asString?
  let theme ← ms.withDefault "theme" d.theme Json.asString?
  let background ← ms.withDefault "background_color" d.backgroundColor Json.asString?
  let scale ← ms.withDefault "scale" d.scale Json.asSingle?
  some ⟨endpoint, theme, background, scale⟩

namespace Config

def encode (c : Config) : Json :=
  .object ([("docs_endpoint", .string c.docsEndpoint)] ++
    Json.member? "access_token" .string c.accessToken ++
    [("asset_store", c.assetStore.encode), ("renderer", c.renderer.encode),
      ("export", c.options.encode)])

def decode? (r : Json.Rules) (j : Json) : Option Config := do
  let d := default
  let ms ← r.members? ["docs_endpoint", "access_token", "asset_store", "renderer", "export"] j
  let endpoint ← ms.withDefault "docs_endpoint" d.docsEndpoint Json.asString?
  let token ← ms.withDefault "access_token" d.accessToken (Json.asOptional? Json.asString?)
  let store ← ms.withDefault "asset_store" d.assetStore (AssetStoreConfig.decode? r)
  let renderer ← ms.withDefault "renderer" d.renderer (RendererConfig.decode? r)
  let options ← ms.withDefault "export" d.options (ExportOptions.decode? r)
  some ⟨endpoint, token, store, renderer, options⟩

/-- The settings that the environment gives; an empty one counts as none. -/
structure Overrides where
  accessToken : Option String
  docsEndpoint : Option String
  deriving Repr, DecidableEq

def Overrides.none : Overrides := ⟨Option.none, Option.none⟩

def nonEmpty (s : Option String) : Option String := s.filter (!·.isEmpty)

def withOverrides (c : Config) (o : Overrides) : Config :=
  { c with
    accessToken := (nonEmpty o.accessToken).or c.accessToken
    docsEndpoint := (nonEmpty o.docsEndpoint).getD c.docsEndpoint }

end Config

end Folio
