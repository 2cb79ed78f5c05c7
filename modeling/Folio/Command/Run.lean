import Folio.Asset.Client
import Folio.Command.Arguments
import Folio.Config.Storage
import Folio.Export.Run
import Folio.Export.Services
import Folio.Markdown.Reader
import Folio.Service.Client

set_option autoImplicit false

namespace Folio.Command

structure Environment where
  config : Option String
  overrides : Config.Overrides
  configHome : String
  deriving Repr, DecidableEq

def Environment.defaultConfig (e : Environment) : String := e.configHome ++ "/quire/config.toml"

inductive Failure where
  | config (e : ConfigError)
  | unreadableSource (path : String)
  | service (e : ServiceError)
  | exporting (e : ExportError)
  | configExists (path : String)
  deriving Repr

def Failure.lines : Failure → List String
  | .config e => e.message :: e.help?.toList
  | .unreadableSource path => ["reading " ++ path]
  | .service e => e.message?.toList ++ e.help?.toList
  | .exporting e => e.message?.toList ++ e.help?.toList
  | .configExists path => [path ++ " already exists; pass --force to overwrite it"]

structure Output where
  printed : List String
  noted : List String
  deriving Repr, DecidableEq

variable {m : Type → Type} [Monad m]

/-- A file that is not there stands for the default configuration. -/
def loadConfig (files : File.Access m) (env : Environment) (path : String) :
    m (Except ConfigError Config) := do
  let loaded ← if ← files.isPresent path then Config.load files path else pure (.ok .default)
  return loaded.map (·.withOverrides env.overrides)

def checkSource (config : Config) (markdown : String) : Output :=
  let draft := dryRun markdown config.options
  ⟨[(Json.array (draft.requests.map Edit.Request.encode)).indentedText],
    [draft.requests.length.repr ++ " request(s), " ++ draft.plans.length.repr ++
      " table(s) pending, document ends at " ++ draft.index.repr]⟩

def services (send : Http.Transport m) (client : DocumentClient) (config : Config) : Services m where
  render source kind theme :=
    DiagramClient.render ⟨config.renderer.endpoint⟩ send source kind theme
  capture e _ := return captureRaster e
  upload image := config.assetStore.upload send image
  create title := (client.create title).run send (.error .transport)
  commit document requests := (client.commit document requests).run send (.error .transport)
  fetch document := (client.fetch document).run send (.error .transport)
  observe _ := return ()

def reportLines (source : String) (r : ExportReport) : List String :=
  let written := match r.tables with
    | .complete tables => [tables.repr ++ " table(s) written"]
    | _ => []
  let lost :=
    if r.isDegraded then
      (r.degraded.repr ++ " element(s) could not be exported:") :: r.warnings.map ("  - " ++ ·)
    else []
  ["Exported " ++ source ++ " as document " ++ r.documentId] ++ written ++ lost

def defaultTitle (source : String) : String := (File.stem? source).getD "Untitled"

def exportSource (send : Http.Transport m) (config : Config) (source title markdown : String) :
    m (Except Failure Output) := do
  match DocumentClient.ofConfig config with
  | .error e => return .error (.service e)
  | .ok client =>
    let settings : ExportSettings :=
      ⟨config.options, ⟨config.renderer.theme, config.renderer.captureOptions⟩⟩
    match ← (services send client config).run (exportMarkdown settings markdown title) with
    | .error e => return .error (.exporting e)
    | .ok report => return .ok ⟨reportLines source report, []⟩

def withSource (files : File.Access m) (env : Environment) (config source : String)
    (next : Config → String → m (Except Failure Output)) : m (Except Failure Output) := do
  match ← loadConfig files env config with
  | .error e => return .error (.config e)
  | .ok config =>
    match ← files.readText? source with
    | none => return .error (.unreadableSource source)
    | some markdown => next config markdown

/-- The options of one run; the command line can only ask for more than the configuration. -/
def Job.options (tableImages strictTables : Bool) (o : ExportOptions) : ExportOptions :=
  { o with
    tableStrategy := if tableImages then .image else o.tableStrategy
    strictTables := o.strictTables || strictTables }

def writeDefaultConfig (files : File.Access m) (path : String) (force : Bool) :
    m (Except Failure Output) := do
  if (← files.isPresent path) && !force then return .error (.configExists path)
  else match ← Config.save files path .default with
    | .error e => return .error (.config e)
    | .ok () => return .ok ⟨["Wrote default config to " ++ path], []⟩

def Job.run (files : File.Access m) (send : Http.Transport m) (env : Environment) (config : String) :
    Job → m (Except Failure Output)
  | .exportFile source title tableImages strictTables =>
    withSource files env config source fun c markdown =>
      exportSource send { c with options := Job.options tableImages strictTables c.options } source
        (title.getD (defaultTitle source)) markdown
  | .check source =>
    withSource files env config source fun c markdown => return .ok (checkSource c markdown)
  | .initConfig force => writeDefaultConfig files config force

structure Outcome where
  exitCode : Nat
  output : String
  errors : String
  deriving Repr, DecidableEq

def textOfLines (lines : List String) : String := String.join (lines.map (· ++ "\n"))

def Outcome.ofResult : Except Failure Output → Outcome
  | .ok o => ⟨0, textOfLines o.printed, textOfLines o.noted⟩
  | .error f => ⟨1, "", textOfLines (f.lines.map ("Error: " ++ ·))⟩

def programName : String := "quire-cli"

def programVersion : String := "0.1.0"

def versionLine (of : Option Subcommand) : String :=
  programName ++ (match of with
    | none => ""
    | some c => "-" ++ c.name) ++ " " ++ programVersion

def usage : List String :=
  ["Usage: quire [--config <path>] [-v] <command>",
    "  export <source> [--title <title>] [--table-images] [--strict-tables]",
    "  check <source>",
    "  init-config [--force]"]

def run (files : File.Access m) (send : Http.Transport m) (env : Environment) (args : List String) :
    m Outcome := do
  match wish? env.config args with
  | none => return ⟨2, "", textOfLines usage⟩
  | some .help => return ⟨0, textOfLines usage, ""⟩
  | some (.version of) => return ⟨0, versionLine of ++ "\n", ""⟩
  | some (.run config job) =>
    return .ofResult (← job.run files send env (config.getD env.defaultConfig))

end Folio.Command
