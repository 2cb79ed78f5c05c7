import Folio.Asset.Basic
import Folio.Edit.Request
import Folio.Export.State
import Folio.Service.Error
import Folio.Snapshot.Basic
/-!
What an export asks of the world around it, as data: a process either is done or asks for something
and goes on with the reply. Whoever runs a process decides how its calls are answered.
-/
set_option autoImplicit false

namespace Folio

inductive Call where
  /-- Waits until the viewport can be taken. -/
  | acquire
  | release
  | mount (e : Element)
  | mounted
  | render (source : String) (kind : AssetKind) (theme : String)
  | capture (e : Element) (options : CaptureOptions)
  | upload (image : Image)
  | create (title : String)
  | commit (document : String) (requests : List Edit.Request)
  | fetch (document : String)
  | enter (state : ExportState)
  deriving Repr

/-- What a call is answered with. -/
def Call.Reply : Call → Type
  | .acquire | .release | .mount _ | .enter _ => Unit
  | .mounted => Option Element
  | .render .. => Except RenderError Element
  | .capture .. => Except CaptureError Image
  | .upload _ => Except UploadError String
  | .create _ => Except ServiceError String
  | .commit .. => Except ServiceError Unit
  | .fetch _ => Except ServiceError Snapshot

inductive Process (α : Type) where
  | done (a : α)
  | ask (c : Call) (next : c.Reply → Process α)

namespace Process

variable {α β γ : Type}

def bind : Process α → (α → Process β) → Process β
  | done a, f => f a
  | ask c next, f => ask c fun r => (next r).bind f

instance : Monad Process where
  pure := done
  bind := bind

def call (c : Call) : Process c.Reply := ask c done

def run {m : Type → Type} [Monad m] (answer : (c : Call) → m c.Reply) : Process α → m α
  | done a => pure a
  | ask c next => answer c >>= fun r => (next r).run answer

theorem bind_done (p : Process α) : p.bind done = p := by
  induction p with
  | done a => rfl
  | ask c next ih => simp [bind, ih]

theorem bind_bind (p : Process α) (f : α → Process β) (g : β → Process γ) :
    (p.bind f).bind g = p.bind fun a => (f a).bind g := by
  induction p with
  | done a => rfl
  | ask c next ih => simp [bind, ih]

theorem run_bind {m : Type → Type} [Monad m] [LawfulMonad m] (answer : (c : Call) → m c.Reply)
    (p : Process α) (f : α → Process β) :
    (p.bind f).run answer = p.run answer >>= fun a => (f a).run answer := by
  induction p with
  | done a => simp [bind, run]
  | ask c next ih => simp [bind, run, ih]

end Process

end Folio
