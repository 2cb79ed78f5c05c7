import Folio.Hash.Blake3
import Folio.Number.Binary
import Folio.Web.Host

set_option autoImplicit false

namespace Folio

inductive AssetKind where
  | diagram (language : String)
  | table
  deriving Repr, DecidableEq

def AssetKind.label : AssetKind → String
  | .diagram language => language
  | .table => "table"

inductive ElementFormat where
  | png
  | svg
  deriving Repr, DecidableEq

def ElementFormat.mime : ElementFormat → String
  | .png => "image/png"
  | .svg => "image/svg+xml"

def ElementFormat.name : ElementFormat → String
  | .png => "Png"
  | .svg => "Svg"

structure Element where
  format : ElementFormat
  bytes : List UInt8
  deriving Repr, DecidableEq

structure Image where
  bytes : List UInt8
  mime : String
  extension : String
  deriving Repr, DecidableEq

/-- The name of a picture is the hash of its bytes, so equal pictures have one name. -/
def Image.objectName (i : Image) : String := Text.hex (Blake3.hash i.bytes) ++ "." ++ i.extension

structure CaptureOptions where
  backgroundColor : String
  scale : Single
  allowCrossOrigin : Bool
  deriving Repr, DecidableEq

inductive RenderError where
  | badSource (kind message : String)
  | unsupported (kind : String)
  | transport
  | service (status : Nat) (message : String)
  deriving Repr, DecidableEq

namespace RenderError

def message? : RenderError → Option String
  | .badSource kind message => some ("syntax error in " ++ kind ++ " source: " ++ message)
  | .unsupported kind => some ("renderer does not support " ++ kind)
  | .transport => none
  | .service status message => some ("renderer returned " ++ status.repr ++ ": " ++ message)

def code : RenderError → String
  | .badSource .. => "quire::assets::render::syntax"
  | .unsupported _ => "quire::assets::render::unsupported"
  | .transport => "quire::assets::render::transport"
  | .service .. => "quire::assets::render::service"

end RenderError

inductive CaptureError where
  | unsupportedFormat (format : ElementFormat)
  | nothingMounted
  | blank
  deriving Repr, DecidableEq

namespace CaptureError

def message : CaptureError → String
  | .unsupportedFormat format => "cannot capture " ++ format.name ++ " element"
  | .nothingMounted => "nothing is mounted on the viewport"
  | .blank => "rendered element is empty"

def code : CaptureError → String
  | .unsupportedFormat _ => "quire::assets::capture::format"
  | .nothingMounted => "quire::assets::capture::empty"
  | .blank => "quire::assets::capture::blank"

end CaptureError

inductive UploadError where
  | transport
  | rejected (status : Nat) (message : String)
  | invalidUrl (cause : Web.UrlError)
  deriving Repr, DecidableEq

namespace UploadError

def message? : UploadError → Option String
  | .transport => none
  | .rejected status message =>
    some ("asset store rejected upload with " ++ status.repr ++ ": " ++ message)
  | .invalidUrl cause => some ("invalid asset URL: " ++ cause.message)

def code : UploadError → String
  | .transport => "quire::assets::upload::transport"
  | .rejected .. => "quire::assets::upload::rejected"
  | .invalidUrl _ => "quire::assets::upload::url"

end UploadError

inductive AssetError where
  | render (e : RenderError)
  | capture (e : CaptureError)
  | upload (e : UploadError)
  deriving Repr, DecidableEq

namespace AssetError

def message? : AssetError → Option String
  | .render e => e.message?
  | .capture e => some e.message
  | .upload e => e.message?

def code : AssetError → String
  | .render e => e.code
  | .capture e => e.code
  | .upload e => e.code

end AssetError

def captureRaster (e : Element) : Except CaptureError Image :=
  if e.bytes.isEmpty then .error .blank
  else match e.format with
    | .png => .ok ⟨e.bytes, ElementFormat.png.mime, "png"⟩
    | .svg => .error (.unsupportedFormat .svg)

end Folio
