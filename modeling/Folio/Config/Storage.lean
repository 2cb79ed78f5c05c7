import Folio.Config.Format
import Folio.File.Access

set_option autoImplicit false

namespace Folio

inductive ConfigError where
  | unreachable (path : String)
  | unsupportedFormat (path : String)
  | malformed (format : ConfigFormat)
  deriving Repr, DecidableEq

namespace ConfigError

def message : ConfigError → String
  | .unreachable path => "failed to read config at " ++ path
  | .unsupportedFormat path => "unsupported config format: " ++ path
  | .malformed .toml => "invalid TOML config"
  | .malformed .json => "invalid JSON config"

def code : ConfigError → String
  | .unreachable _ => "quire::config::io"
  | .unsupportedFormat _ => "quire::config::format"
  | .malformed .toml => "quire::config::toml"
  | .malformed .json => "quire::config::json"

def help? : ConfigError → Option String
  | .unsupportedFormat _ => some "config files must end in .toml or .json"
  | _ => none

end ConfigError

def ConfigFormat.ofPath? (path : String) : Option ConfigFormat :=
  match File.extension? path with
  | some "json" => some .json
  | some "toml" => some .toml
  | _ => none

namespace Config

variable {m : Type → Type} [Monad m]

def ofText (text : String) (format : ConfigFormat) : Except ConfigError Config :=
  match ofText? text format with
  | some c => .ok c
  | none => .error (.malformed format)

def load (files : File.Access m) (path : String) : m (Except ConfigError Config) :=
  match ConfigFormat.ofPath? path with
  | none => return .error (.unsupportedFormat path)
  | some format => do
    match ← files.readText? path with
    | none => return .error (.unreachable path)
    | some text => return ofText text format

def save (files : File.Access m) (path : String) (c : Config) : m (Except ConfigError Unit) :=
  match ConfigFormat.ofPath? path with
  | none => return .error (.unsupportedFormat path)
  | some format => do
    if ← files.save path (Text.utf8Bytes (c.toText format)) then return .ok ()
    else return .error (.unreachable path)

end Config

end Folio
