import Folio.Web.Url

set_option autoImplicit false

namespace Folio.Http

inductive Method where
  | get
  | post
  | put
  deriving Repr, DecidableEq

def Method.name : Method → String
  | .get => "GET"
  | .post => "POST"
  | .put => "PUT"

structure Message where
  method : Method
  url : Web.Url
  contentType : Option String
  authorization : Option String
  body : List UInt8
  deriving Repr, DecidableEq

structure Reply where
  status : Nat
  body : List UInt8
  deriving Repr, DecidableEq

def Reply.isSuccess (r : Reply) : Bool := 200 ≤ r.status && r.status < 300

/-- The body as text, with U+FFFD for what is no UTF-8. -/
def Reply.text (r : Reply) : String := Text.lossyText r.body

def withoutFinalSlashes (s : String) : String :=
  String.ofList (s.toList.reverse.dropWhile (· == '/')).reverse

def jsonType : String := "application/json"

def isHeaderText (s : String) : Bool :=
  s.toList.all fun c => c == '\t' || (32 ≤ c.toNat && c.toNat != 127)

def bearer (token : String) : String := "Bearer " ++ token

/-- A message to an address. There is none if the address is no web address or a header is no text for
a header. -/
def message? (method : Method) (address : String) (contentType authorization : Option String)
    (body : List UInt8) : Option Message :=
  match Web.Url.parse address with
  | .error _ => none
  | .ok url =>
    if url.isHttp && contentType.all isHeaderText && authorization.all isHeaderText then
      some ⟨method, url, contentType, authorization, body⟩
    else none

structure Exchange (α : Type) where
  message? : Option Message
  conclude : Reply → α

abbrev Transport (m : Type → Type) := Message → m (Option Reply)

/-- Without a reply the result is `silence`. -/
def Exchange.run {m : Type → Type} [Monad m] {α : Type} (send : Transport m) (silence : α)
    (e : Exchange α) : m α :=
  match e.message? with
  | none => return silence
  | some message => do
    match ← send message with
    | none => return silence
    | some reply => return e.conclude reply

end Folio.Http
