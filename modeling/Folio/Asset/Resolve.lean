import Folio.Asset.Map
import Folio.Asset.Target
import Folio.Export.Process
/-!
Turning the targets of a document into pictures, one after the other. A target that fails is left out
and does not disturb the others.
-/
set_option autoImplicit false

namespace Folio

structure AssetFailure where
  node : Nat
  kind : AssetKind
  error : AssetError
  deriving Repr, DecidableEq

structure ResolvedAssets where
  map : AssetMap
  failures : List AssetFailure
  deriving Repr, DecidableEq

structure PictureStyle where
  theme : String
  capture : CaptureOptions
  deriving Repr, DecidableEq

def captureMounted (options : CaptureOptions) : Process (Except CaptureError Image) := do
  match ← Process.call .mounted with
  | some e => Process.call (.capture e options)
  | none => return .error .nothingMounted

/-- Renders, captures and publishes one target. The viewport is held from before the rendering until
after the capture, and never while publishing. -/
def AssetTarget.resolve (style : PictureStyle) (t : AssetTarget) :
    Process (Except AssetError String) := do
  Process.call .acquire
  match ← Process.call (.render t.source t.kind style.theme) with
  | .error e =>
    Process.call .release
    return .error (.render e)
  | .ok element =>
    Process.call (.mount element)
    let captured ← captureMounted style.capture
    Process.call .release
    match captured with
    | .error e => return .error (.capture e)
    | .ok image =>
      match ← Process.call (.upload image) with
      | .error e => return .error (.upload e)
      | .ok url => return .ok url

def ResolvedAssets.record (r : ResolvedAssets) (t : AssetTarget) :
    Except AssetError String → ResolvedAssets
  | .ok url => { r with map := r.map.insert t.id url }
  | .error e => { r with failures := r.failures ++ [⟨t.id, t.kind, e⟩] }

def resolveAll (style : PictureStyle) (r : ResolvedAssets) :
    List AssetTarget → Process ResolvedAssets
  | [] => return r
  | t :: ts => do
    let result ← t.resolve style
    resolveAll style (r.record t result) ts

def Document.resolve (d : Document) (style : PictureStyle) (options : ExportOptions) :
    Process ResolvedAssets :=
  resolveAll style ⟨.empty, []⟩ (d.targets options)

end Folio
