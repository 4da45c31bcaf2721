import DocLint.Config
import DocLint.Output
import DocLint.Run

/-!
# Settings

The settings of a run come from three sources: what an operator asks for goes before what the configuration
file says, and what neither says is settled by a default. The configuration file is looked for in the
repository, whose directory is found by going up from where one starts (`detect_repo_root`, `load_config`).
`resolve_effective` puts the sources together.
-/

namespace DocLint

/-- What an operator asks for. -/
structure Request where
  /-- Where to start looking for the repository. -/
  root : Option String
  /-- The policy. -/
  policy : Option String
  /-- The name of the output mode. -/
  output : Option String
  /-- Whether rules are evaluated one after the other. -/
  sequential : Bool
  /-- The severities by rule name, of which later ones count. -/
  severities : List (String × Severity)
  deriving DecidableEq, Repr

/-- How a run is done (`Effective`). -/
structure Settings where
  /-- The directory of the repository. -/
  root : FileName
  /-- The policy, if there is one. -/
  policy : Option FileName
  /-- How the reports are told. -/
  output : OutputMode
  /-- How rules are evaluated. -/
  mode : Mode
  /-- Which files are meant if the operator names none. -/
  patterns : List String
  /-- The changed severities. -/
  overrides : Overrides
  /-- The names of the rules that are left out. -/
  disable : List String
  /-- Whether there is a configuration file. -/
  configFound : Bool
  deriving DecidableEq, Repr

/-- Why there are no settings. -/
inductive SettingsError where
  /-- A configuration file says nothing. -/
  | config (file : FileName) (cause : ConfigError)
  /-- There is no such output mode. -/
  | unknownOutput (name : String)
  deriving DecidableEq, Repr

/-- Why there are no settings, as it is told to people. -/
def SettingsError.message : SettingsError → String
  | .config file e => file.text ++ ": " ++ e.message
  | .unknownOutput s => "unknown output mode '" ++ s ++ "' (expected human|text|json)"

namespace Settings

/-- The names of configuration files and what they are written in. A name goes before those after it. -/
def configFiles : List (String × ConfigFormat) :=
  [("speclint.toml", .toml), ("speclint.yaml", .yaml), ("speclint.yml", .yaml)]

/-- The entries that only the directory of a repository has. -/
def rootMarks : List String := configFiles.map (·.1) ++ [".git"]

/-- The settings that follow from what the configuration file says, if there is one, and from what an
operator asks for (`resolve_effective`). -/
def ofConfig (root : FileName) (config? : Option Config) (request : Request) :
    Except SettingsError Settings :=
  let config := config?.getD .empty
  let output := (request.output <|> config.output).getD OutputMode.human.name
  match OutputMode.read? output with
  | none => .error (.unknownOutput output)
  | some output =>
    .ok {
      root := root
      policy :=
        match request.policy with
        | some p => some ⟨p⟩
        | none => config.policy.map root.child
      output := output
      mode := if request.sequential || !config.parallel.getD true then .sequential else .parallel
      patterns := config.patterns
      overrides := (Overrides.ofList config.severities).merge (Overrides.ofList request.severities)
      disable := config.disable
      configFound := config?.isSome }

section
variable {m : Type → Type} [Monad m] (fs : Files m)

/-- Whether a directory is that of a repository. -/
def isRoot (dir : FileName) : m Bool :=
  rootMarks.anyM fun mark => fs.has (dir.child mark)

/-- The directory of the repository (`detect_repo_root`): the nearest one going up from where one starts, as
far as its name goes, and if there is none, the start itself. -/
def detectRoot (start : FileName) : m FileName := do
  return (← start.selfAndAncestors.findM? (isRoot fs)).getD start

/-- Reads a configuration file. -/
def readConfig (file : FileName) (format : ConfigFormat) : m (Except SettingsError Config) := do
  match ← fs.read file with
  | .error e => return .error (.config file (.unreadable e))
  | .ok source => return (Config.read format source).mapError (.config file)

/-- What the configuration file of a repository says, if there is one (`load_config`). -/
def loadConfig (root : FileName) : m (Except SettingsError (Option Config)) := do
  match ← configFiles.findM? fun (name, _) => fs.has (root.child name) with
  | none => return .ok none
  | some (name, format) => return (← readConfig fs (root.child name) format).map some

/-- The settings of a request. -/
def resolve (request : Request) : m (Except SettingsError Settings) := do
  let root ← detectRoot fs ⟨request.root.getD "."⟩
  match ← loadConfig fs root with
  | .error e => return .error e
  | .ok config? => return ofConfig root config? request

end

end Settings

end DocLint
