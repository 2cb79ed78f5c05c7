set_option autoImplicit false

namespace Folio

inductive ServiceError where
  | transport
  | api (status : Nat) (message : String) (reason : Option String)
  | decode
  | missingToken
  deriving Repr, DecidableEq

namespace ServiceError

/-- Whether the failure means that the credentials have expired or were withdrawn. -/
def isAuthExpired : ServiceError → Bool
  | .api status _ reason =>
    status == 401 || status == 403 || reason == some "UNAUTHENTICATED" ||
      reason == some "PERMISSION_DENIED"
  | .missingToken => true
  | _ => false

def message? : ServiceError → Option String
  | .api status message _ =>
    some ("document service returned " ++ status.repr ++ ": " ++ message)
  | .missingToken => some "no access token configured"
  | .transport | .decode => none

def code : ServiceError → String
  | .transport => "quire::service::transport"
  | .api .. => "quire::service::api"
  | .decode => "quire::service::decode"
  | .missingToken => "quire::service::missing_token"

def help? : ServiceError → Option String
  | .missingToken => some "set \x60access_token\x60 in the config file or QUIRE_ACCESS_TOKEN"
  | _ => none

end ServiceError

end Folio
