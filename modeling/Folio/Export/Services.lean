import Folio.Asset.Viewport
import Folio.Export.Process

set_option autoImplicit false

namespace Folio

structure Services (m : Type → Type) where
  render : (source : String) → (kind : AssetKind) → (theme : String) → m (Except RenderError Element)
  capture : (e : Element) → (options : CaptureOptions) → m (Except CaptureError Image)
  upload : (image : Image) → m (Except UploadError String)
  create : (title : String) → m (Except ServiceError String)
  commit : (document : String) → (requests : List Edit.Request) → m (Except ServiceError Unit)
  fetch : (document : String) → m (Except ServiceError Snapshot)
  observe : (state : ExportState) → m Unit

namespace Services

variable {m : Type → Type} [Monad m]

/-- Nobody else uses the viewport, so it can always be taken. -/
def answer (s : Services m) : (c : Call) → StateT Viewport m c.Reply
  | .acquire => modify fun v => v.acquire?.getD v
  | .release => modify Viewport.release
  | .mount e => modify (·.mount e)
  | .mounted => do return (← get).mounted
  | .render source kind theme => s.render source kind theme
  | .capture e options => s.capture e options
  | .upload image => s.upload image
  | .create title => s.create title
  | .commit document requests => s.commit document requests
  | .fetch document => s.fetch document
  | .enter state => s.observe state

def run {α : Type} (s : Services m) (p : Process α) : m α :=
  do return (← (p.run s.answer).run .empty).1

end Services

end Folio
