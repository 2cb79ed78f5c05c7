import Folio.Config.Basic
import Folio.Edit.Wire
import Folio.Http.Exchange
import Folio.Json.Read
import Folio.Json.Write
import Folio.Service.Error
import Folio.Snapshot.Decode

set_option autoImplicit false

namespace Folio

structure DocumentClient where
  endpoint : String
  token : String
  deriving Repr, DecidableEq

namespace DocumentClient

/-- An empty token counts as none. -/
def ofConfig (c : Config) : Except ServiceError DocumentClient :=
  match Config.nonEmpty c.accessToken with
  | none => .error .missingToken
  | some token => .ok ⟨c.docsEndpoint, token⟩

def address (c : DocumentClient) (rest : String) : String :=
  Http.withoutFinalSlashes c.endpoint ++ "/v1/documents" ++ rest

def bodyJson? (r : Http.Reply) : Option Json := (Text.utf8Text? r.body).bind Json.read?

structure Complaint where
  message : String
  status : Option String
  deriving Repr, DecidableEq

def Complaint.decode? (j : Json) : Option Complaint := do
  let envelope ← Json.members? ["error"] j
  let body ← envelope.required "error" some
  let ms ← Json.members? ["message", "status"] body
  let message ← ms.withDefault "message" "" Json.asString?
  let status ← ms.withDefault "status" none (Json.asOptional? Json.asString?)
  some ⟨message, status⟩

/-- A reply without a complaint in it is quoted as it is. -/
def failure (r : Http.Reply) : ServiceError :=
  match (bodyJson? r).bind Complaint.decode? with
  | some c => .api r.status c.message c.status
  | none => .api r.status r.text none

def conclude {α : Type} (decode? : Json → Option α) (r : Http.Reply) : Except ServiceError α :=
  if !r.isSuccess then .error (failure r)
  else match (bodyJson? r).bind decode? with
    | some a => .ok a
    | none => .error .decode

def exchange {α : Type} (c : DocumentClient) (method : Http.Method) (rest : String)
    (body : Option Json) (decode? : Json → Option α) : Http.Exchange (Except ServiceError α) where
  message? := Http.message? method (c.address rest) (body.map fun _ => Http.jsonType)
    (some (Http.bearer c.token)) ((body.map fun j => Text.utf8Bytes j.compactText).getD [])
  conclude := conclude decode?

def decodeCreated? (j : Json) : Option String := do
  let ms ← Json.members? ["documentId"] j
  ms.required "documentId" Json.asString?

def decodeAnything? (j : Json) : Option Unit := if j.isReadable Json.depthLimit then some () else none

def create (c : DocumentClient) (title : String) : Http.Exchange (Except ServiceError String) :=
  c.exchange .post "" (some (.object [("title", .string title)])) decodeCreated?

def commit (c : DocumentClient) (document : String) (requests : List Edit.Request) :
    Http.Exchange (Except ServiceError Unit) :=
  c.exchange .post ("/" ++ document ++ ":batchUpdate") (some (Edit.encodeBatch requests))
    decodeAnything?

def fetch (c : DocumentClient) (document : String) : Http.Exchange (Except ServiceError Snapshot) :=
  c.exchange .get ("/" ++ document) none Snapshot.decode?

end DocumentClient

end Folio
