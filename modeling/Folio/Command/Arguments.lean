/-!
The arguments of the command line. They are read from left to right, and the first that cannot be right,
or that asks for the version or for help, settles the matter. What stands before the name of the
subcommand and what stands behind it are two scopes: each may give a setting once.
-/
set_option autoImplicit false

namespace Folio.Command

inductive Subcommand where
  | exportFile
  | check
  | initConfig
  deriving Repr, DecidableEq

namespace Subcommand

def name : Subcommand → String
  | .exportFile => "export"
  | .check => "check"
  | .initConfig => "init-config"

def all : List Subcommand := [.exportFile, .check, .initConfig]

def ofName? (s : String) : Option Subcommand := all.find? fun c => s == c.name

def hasSource : Subcommand → Bool
  | .exportFile | .check => true
  | .initConfig => false

end Subcommand

inductive Switch where
  | help
  | version
  | verbose
  | tableImages
  | strictTables
  | force
  deriving Repr, DecidableEq

inductive Parameter where
  | config
  | title
  deriving Repr, DecidableEq

def switches : Option Subcommand → List (String × Switch)
  | none | some .check => common
  | some .exportFile => common ++ [("table-images", .tableImages), ("strict-tables", .strictTables)]
  | some .initConfig => common ++ [("force", .force)]
where
  common : List (String × Switch) := [("help", .help), ("version", .version), ("verbose", .verbose)]

def shortSwitches : List (Char × Switch) := [('h', .help), ('V', .version), ('v', .verbose)]

def parameters : Option Subcommand → List (String × Parameter)
  | some .exportFile => [("config", .config), ("title", .title)]
  | _ => [("config", .config)]

structure Given where
  switches : List Switch
  values : List (Parameter × String)
  source : Option String
  deriving Repr, DecidableEq

namespace Given

def nothing : Given := ⟨[], [], none⟩

def has (g : Given) (s : Switch) : Bool := g.switches.contains s

def value? (g : Given) (p : Parameter) : Option String := g.values.lookup p

def addSwitch? (g : Given) (s : Switch) : Option Given :=
  if g.has s then none else some { g with switches := s :: g.switches }

def addValue? (g : Given) (p : Parameter) (value : String) : Option Given :=
  if (g.value? p).isSome || (p = .config && value.isEmpty) then none
  else some { g with values := (p, value) :: g.values }

def addSource? (g : Given) (c : Subcommand) (path : String) : Option Given :=
  if c.hasSource && g.source.isNone && !path.isEmpty then some { g with source := some path }
  else none

end Given

inductive Job where
  | exportFile (source : String) (title : Option String) (tableImages strictTables : Bool)
  | check (source : String)
  | initConfig (force : Bool)
  deriving Repr, DecidableEq

inductive Wish where
  | run (config : Option String) (job : Job)
  | version (of : Option Subcommand)
  | help
  deriving Repr, DecidableEq

inductive Argument where
  /-- From here on every argument is taken as it is. -/
  | escape
  | long (name : String) (value : Option String)
  | short (letters : List Char)
  | plain (text : String)
  deriving Repr, DecidableEq

def Argument.ofText (s : String) : Argument :=
  match s.toList with
  | ['-', '-'] => .escape
  | '-' :: '-' :: cs =>
    match cs.span (· != '=') with
    | (name, _ :: value) => .long (String.ofList name) (some (String.ofList value))
    | (name, []) => .long (String.ofList name) none
  | ['-'] => .plain s
  | '-' :: cs => .short cs
  | _ => .plain s

def withSwitch (scope : Option Subcommand) (g : Given) (s : Switch)
    (next : Given → Option (Given ⊕ Wish)) : Option (Given ⊕ Wish) :=
  match s with
  | .help => some (.inr .help)
  | .version => some (.inr (.version scope))
  | _ => (g.addSwitch? s).bind next

def readShort (scope : Option Subcommand) (g : Given) : List Char → Option (Given ⊕ Wish)
  | [] => some (.inl g)
  | c :: cs =>
    match shortSwitches.lookup c with
    | none => none
    | some s => withSwitch scope g s fun g => readShort scope g cs

inductive Step where
  | done (g : Given)
  | needsValue (p : Parameter)
  | settled (w : Wish)

def Step.of : Given ⊕ Wish → Step
  | .inl g => .done g
  | .inr w => .settled w

def readOption (scope : Option Subcommand) (g : Given) : Argument → Option Step
  | .long name value =>
    match (switches scope).lookup name, value with
    | some s, none => (withSwitch scope g s fun g => some (.inl g)).map Step.of
    | some _, some _ => none
    | none, _ =>
      match (parameters scope).lookup name, value with
      | some p, some v => (g.addValue? p v).map .done
      | some p, none => some (.needsValue p)
      | none, _ => none
  | .short letters => (readShort scope g letters).map Step.of
  | _ => none

/-- What a scope ends with: the end of the arguments, or the name of a subcommand with the arguments
behind it. -/
inductive Ending where
  | all (g : Given)
  | subcommand (g : Given) (name : String) (rest : List String)
  | settled (w : Wish)

def readScope (scope : Option Subcommand) (escaped : Bool) (g : Given) :
    List String → Option Ending
  | [] => some (.all g)
  | arg :: rest =>
    let plain (text : String) : Option Ending :=
      match scope with
      | none => if escaped then none else some (.subcommand g text rest)
      | some c => (g.addSource? c text).bind fun g => readScope scope escaped g rest
    if escaped then plain arg
    else match Argument.ofText arg with
      | .plain text => plain text
      | .escape => readScope scope true g rest
      | a =>
        match readOption scope g a, rest with
        | none, _ => none
        | some (.settled w), _ => some (.settled w)
        | some (.done g), rest => readScope scope false g rest
        | some (.needsValue _), [] => none
        | some (.needsValue p), value :: rest =>
          match Argument.ofText value with
          | .plain text => (g.addValue? p text).bind fun g => readScope scope false g rest
          | _ => none

/-- The path of the configuration: the inner scope goes first, and the environment last. A scope that
gives none takes that of the environment, which may not be empty either. -/
def configPath? (outer inner : Given) (environment : Option String) : Option (Option String) :=
  let missing := (outer.value? .config).isNone || (inner.value? .config).isNone
  if missing && environment == some "" then none
  else some (((inner.value? .config).or (outer.value? .config)).or environment)

def job? (c : Subcommand) (g : Given) : Option Job :=
  match c, g.source with
  | .exportFile, some source =>
    some (.exportFile source (g.value? .title) (g.has .tableImages) (g.has .strictTables))
  | .check, some source => some (.check source)
  | .initConfig, _ => some (.initConfig (g.has .force))
  | _, none => none

def helpOn? : List String → Option Wish
  | [] => some .help
  | [name] => (Subcommand.ofName? name).map fun _ => .help
  | _ => none

/-- What the arguments of the program ask for; none if they are no proper arguments. `environment` is
the path of the configuration that the environment names. -/
def wish? (environment : Option String) (args : List String) : Option Wish :=
  match readScope none false .nothing args with
  | none | some (.all _) => none
  | some (.settled w) => some w
  | some (.subcommand outer name rest) =>
    if name == "help" then helpOn? rest
    else match Subcommand.ofName? name with
      | none => none
      | some c =>
        match readScope (some c) false .nothing rest with
        | some (.all inner) => do
          let job ← job? c inner
          let config ← configPath? outer inner environment
          return .run config job
        | some (.settled w) => some w
        | _ => none

end Folio.Command
