import DocLint.Files.Access
import DocLint.Override
import DocLint.Toml.Fields
import DocLint.Toml.Reader
import DocLint.Yaml.Fields
import DocLint.Yaml.Reader

/-!
# Configuration files

A repository says in one file, a `SpeclintConfig`, how it wants to be linted: by which policy, how the result
is told, which files are meant, which rules are left out and which severities are changed. All of it may be
left out. The file is written in TOML or in YAML. Keys that mean nothing are ignored.
-/

namespace DocLint

/-- What a configuration file says (`SpeclintConfig`). -/
structure Config where
  /-- The name of the policy, relative to the directory of the file. -/
  policy : Option String
  /-- The name of the output mode. -/
  output : Option String
  /-- Whether rules are evaluated at once. -/
  parallel : Option Bool
  /-- Which files are meant, relative to the directory of the file. -/
  patterns : List String
  /-- The severities by rule name, of which later ones count. -/
  severities : List (String × Severity)
  /-- The names of the rules that are left out. -/
  disable : List String
  deriving DecidableEq, Repr

/-- What a configuration file is written in. -/
inductive ConfigFormat where
  /-- TOML. -/
  | toml
  /-- YAML. -/
  | yaml
  deriving DecidableEq, Repr

/-- Why a configuration file says nothing. -/
inductive ConfigError where
  /-- It cannot be read. -/
  | unreadable (cause : ReadFailure)
  /-- It is not TOML. -/
  | toml (cause : Toml.Fault)
  /-- It is not YAML. -/
  | yaml (cause : Yaml.Fault)
  /-- A key of a TOML document has a value of another type. -/
  | tomlField (cause : Toml.FieldError)
  /-- A key of a YAML document has a value of another type. -/
  | yamlField (cause : Yaml.FieldError)
  /-- A severity that does not exist. -/
  | severity (cause : UnknownSeverity)
  deriving DecidableEq, Repr

/-- Why a configuration file says nothing, as it is told to people. -/
def ConfigError.message : ConfigError → String
  | .unreadable e => e.message
  | .toml e => e.message
  | .yaml e => e.message
  | .tomlField e => e.message
  | .yamlField e => e.message
  | .severity e => e.message

/-- A fault of a TOML field is a fault of the configuration. -/
instance : MonadLift (Except Toml.FieldError) (Except ConfigError) where
  monadLift r := r.mapError .tomlField

/-- A fault of a YAML field is a fault of the configuration. -/
instance : MonadLift (Except Yaml.FieldError) (Except ConfigError) where
  monadLift r := r.mapError .yamlField

namespace Config

/-- What is said where there is no configuration file. -/
def empty : Config :=
  { policy := none
    output := none
    parallel := none
    patterns := []
    severities := []
    disable := [] }

/-- Reads the severities of rules. -/
def readSeverities : List (String × String) → Except ConfigError (List (String × Severity))
  | [] => .ok []
  | (rule, level) :: r =>
    match Severity.read level with
    | .ok s => (readSeverities r).map ((rule, s) :: ·)
    | .error e => .error (.severity e)

/-- The entries of a TOML table of texts. -/
def textEntries : Toml.Table → Except Toml.FieldError (List (String × String))
  | [] => .ok []
  | (rule, .string level) :: r => (textEntries r).map ((rule, level) :: ·)
  | (rule, _) :: _ => .error (.wrongType rule)

/-- What a TOML table says. -/
def ofTable (t : Toml.Table) : Except ConfigError Config := do
  return {
    policy := ← t.text? "policy"
    output := ← t.text? "output"
    parallel := ← t.boolean? "parallel"
    patterns := (← t.texts? "patterns").getD []
    severities := ← readSeverities (← textEntries ((← t.table? "severity").getD []))
    disable := (← t.texts? "disable").getD [] }

/-- The texts under the keys of a YAML mapping. -/
def scalarEntries (d : Yaml.Document) : Yaml.Fields → Except Yaml.FieldError (List (String × String))
  | [] => .ok []
  | (rule, level) :: r =>
    match d.text? level with
    | some s => (scalarEntries d r).map ((rule, s) :: ·)
    | none => .error (.wrongType rule)

/-- What a YAML document says. -/
def ofDocument (d : Yaml.Document) : Except ConfigError Config := do
  let fs ← d.fields d.root
  let severities ← match ← fs.get? "severity" with
    | some v => d.fields v
    | none => pure []
  return {
    policy := ← d.textField? fs "policy"
    output := ← d.textField? fs "output"
    parallel := ← d.booleanField? fs "parallel"
    patterns := (← d.textsField? fs "patterns").getD []
    severities := ← readSeverities (← scalarEntries d severities)
    disable := (← d.textsField? fs "disable").getD [] }

/-- Reads a configuration. -/
def read (format : ConfigFormat) (source : String) : Except ConfigError Config :=
  match format with
  | .toml =>
    match Toml.read source with
    | .ok t => ofTable t
    | .error e => .error (.toml e)
  | .yaml =>
    match Yaml.read source with
    | .ok d => ofDocument d
    | .error e => .error (.yaml e)

end Config

end DocLint
