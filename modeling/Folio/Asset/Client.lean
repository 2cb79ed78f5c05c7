import Folio.Config.Basic
import Folio.Http.Exchange

set_option autoImplicit false

namespace Folio

structure DiagramClient where
  endpoint : String
  deriving Repr, DecidableEq

namespace DiagramClient

/-- The default theme is not mentioned. -/
def address (c : DiagramClient) (language theme : String) : String :=
  let base := Http.withoutFinalSlashes c.endpoint ++ "/" ++ language.map Char.toLower ++ "/png"
  if theme == "" || theme == "default" then base else base ++ "?theme=" ++ theme

def conclude (language : String) (r : Http.Reply) : Except RenderError Element :=
  if r.status == 400 then .error (.badSource language r.text)
  else if !r.isSuccess then .error (.service r.status r.text)
  else .ok ⟨.png, r.body⟩

def render {m : Type → Type} [Monad m] (c : DiagramClient) (send : Http.Transport m)
    (source : String) (kind : AssetKind) (theme : String) : m (Except RenderError Element) :=
  match kind with
  | .table => return .error (.unsupported kind.label)
  | .diagram language =>
    let exchange : Http.Exchange (Except RenderError Element) :=
      ⟨Http.message? .post (c.address language theme) (some "text/plain") none
        (Text.utf8Bytes source), conclude language⟩
    exchange.run send (.error .transport)

end DiagramClient

namespace AssetStoreConfig

def conclude (url : Web.Url) (r : Http.Reply) : Except UploadError String :=
  if r.isSuccess then .ok url.text else .error (.rejected r.status r.text)

/-- Publishes a picture under the hash of its bytes. The address that readers will use is checked
before anything is sent. -/
def upload {m : Type → Type} [Monad m] (c : AssetStoreConfig) (send : Http.Transport m)
    (image : Image) : m (Except UploadError String) :=
  match Web.Url.parse (Http.withoutFinalSlashes c.publicBase ++ "/" ++ image.objectName) with
  | .error e => return .error (.invalidUrl e)
  | .ok url =>
    let exchange : Http.Exchange (Except UploadError String) :=
      ⟨Http.message? .put (Http.withoutFinalSlashes c.uploadBase ++ "/" ++ image.objectName)
        (some image.mime) (c.uploadToken.map Http.bearer) image.bytes, conclude url⟩
    exchange.run send (.error .transport)

end AssetStoreConfig

end Folio
