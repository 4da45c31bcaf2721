import DocLint.Document.Reader
import DocLint.Policy
import DocLint.Settings
import DocLint.Targets

/-!
# Commands

What the program does when it is called: it tells its version, lists the rules of a policy (`run_rules`), or
lints files (`run_lint`). A command asks for files, and all that it does is what it writes and how it ends.
Whatever is wrong with the settings, the policy or the targets ends it before a document is looked at; a
document that cannot be read is told, and the others are linted all the same.
-/

namespace DocLint

/-- What is asked for on the command line, as it is written there. -/
structure Invocation where
  /-- Where to start looking for the repository. -/
  root : Option String
  /-- The policy. -/
  policy : Option String
  /-- The name of the output mode. -/
  output : Option String
  /-- The changed severities, each as `rule=level`. -/
  severities : List String
  /-- Whether rules are evaluated one after the other. -/
  sequential : Bool
  deriving DecidableEq, Repr

/-- The invocation that asks for nothing. -/
def Invocation.empty : Invocation :=
  { root := none
    policy := none
    output := none
    severities := []
    sequential := false }

/-- What the program is called for (`Commands`). -/
inductive Command where
  /-- To tell its version. -/
  | version
  /-- To tell its name and version. -/
  | signature
  /-- To lint files, or if there are none, those that the configuration means. -/
  | lint (files : List String) (invocation : Invocation)
  /-- To list the rules of a policy. -/
  | rules (root policy : Option String)
  deriving DecidableEq, Repr

/-- What a command writes and how it ends. -/
structure Transcript where
  /-- What it puts out. -/
  output : String
  /-- What it has to remark. -/
  remarks : String
  /-- How it ends. -/
  status : ExitStatus
  deriving DecidableEq, Repr

/-- Why a command ends before any document is looked at. -/
inductive CommandError where
  /-- A changed severity cannot be read. -/
  | flag (cause : FlagError)
  /-- There are no settings. -/
  | settings (cause : SettingsError)
  /-- No policy is named. -/
  | noPolicy
  /-- The policy cannot be read. -/
  | unreadablePolicy (file : FileName) (cause : ReadFailure)
  /-- The policy is none. -/
  | invalidPolicy (file : FileName) (cause : PolicyError)
  /-- The rules of the policy make no profile. -/
  | profile (cause : ProfileError)
  /-- A pattern of files cannot be read. -/
  | target (cause : TargetError)
  /-- There are no files. -/
  | noTargets
  deriving DecidableEq, Repr

/-- Why a file has no report. -/
inductive Trouble where
  /-- It cannot be read. -/
  | unreadable (file : FileName) (cause : ReadFailure)
  /-- It is no document. -/
  | malformed (file : FileName) (cause : ReadError)
  /-- The run was called off. -/
  | cancelled (file : FileName)
  deriving DecidableEq, Repr

/-- A file that cannot be read, as it is told to people. -/
def unreadableMessage (file : FileName) (cause : ReadFailure) : String :=
  "IO error on " ++ file.text ++ ": " ++ cause.message

/-- Why a command ends early, as it is told to people. -/
def CommandError.message : CommandError → String
  | .flag e => e.message
  | .settings e => e.message
  | .noPolicy => "Policy is not configured. Pass --policy or add speclint.toml."
  | .unreadablePolicy file e => unreadableMessage file e
  | .invalidPolicy file e => "invalid policy " ++ file.text ++ ": " ++ e.message
  | .profile e => e.message
  | .target e => e.message
  | .noTargets => "No input files. Pass files or set `patterns` in speclint.toml."

/-- Why a file has no report, as it is told to people. -/
def Trouble.message : Trouble → String
  | .unreadable file e => unreadableMessage file e
  | .malformed file e => "cannot parse " ++ file.text ++ ": " ++ e.message
  | .cancelled file => file.text ++ ": lint run cancelled"

namespace Command

/-- The name of the program. -/
def programName : String := "speclint"

/-- The version of the program. -/
def versionText : String := "0.1.0"

/-- A remark under a heading in a colour. -/
def remark (colours : Bool) (c : Colour) (heading message : String) : String :=
  bold colours (coloured colours c heading) ++ " " ++ message ++ "\n"

/-- A remark about something wrong, after `error_prefix`. -/
def complaint (colours : Bool) (message : String) : String :=
  remark colours .red "error:" message

/-- The remark that there is no configuration file, if there is none, after `note_prefix`. -/
def defaultsNote (colours : Bool) (s : Settings) : String :=
  if s.configFound then ""
  else remark colours .cyan "note:" "No speclint.toml found; using defaults."

/-- A command that ends early, after some remarks (`fail`). -/
def failed (colours : Bool) (remarks : String) (e : CommandError) : Transcript :=
  ⟨"", remarks ++ complaint colours e.message, .trouble⟩

/-- A text with blanks up to a width. -/
def padded (width : Nat) (s : String) : String :=
  s ++ String.ofList (List.replicate (width - s.length) ' ')

/-- The line of a rule in the list of `run_rules`. -/
def ruleLine (r : Rule) : String :=
  padded 32 r.name ++ " " ++ r.severity.text ++ " " ++ r.summary

/-- The files that are documents, with their documents. -/
def documentsOf (loaded : List (FileName × Except Trouble Document)) : List (FileName × Document) :=
  loaded.filterMap fun
    | (file, .ok d) => some (file, d)
    | (_, .error _) => none

/-- Why the other files are none. -/
def faultsOf (loaded : List (FileName × Except Trouble Document)) : List Trouble :=
  loaded.filterMap fun
    | (_, .ok _) => none
    | (_, .error e) => some e

/-- The reports of a batch, by name. -/
def reportsOf (outcomes : List (FileName × Option Report)) : List (String × Report) :=
  outcomes.filterMap fun
    | (file, some r) => some (file.text, r)
    | (_, none) => none

/-- The runs of a batch that were called off. -/
def cancelledOf (outcomes : List (FileName × Option Report)) : List Trouble :=
  outcomes.filterMap fun
    | (_, some _) => none
    | (file, none) => some (.cancelled file)

/-- The gravest of some exit statuses. -/
def worst (statuses : List ExitStatus) : ExitStatus :=
  statuses.foldl ExitStatus.max .passed

/-- What is written about a batch, after some remarks: the reports, and why files have none. -/
def told (colours : Bool) (remarks : String) (mode : OutputMode) (troubles : List Trouble)
    (reports : List (String × Report)) : Transcript :=
  { output := mode.render colours reports
    remarks := remarks ++ String.join (troubles.map fun e => complaint colours e.message)
    status := worst (troubles.map (fun _ => .trouble) ++ reports.map fun e => e.2.exitStatus) }

section
variable {m : Type → Type} [Monad m] (fs : Files m)

/-- The settings of an invocation (`effective`). -/
def settings (i : Invocation) : m (Except CommandError Settings) := do
  match i.severities.mapM readFlag with
  | .error e => return .error (.flag e)
  | .ok severities =>
    return (← Settings.resolve fs ⟨i.root, i.policy, i.output, i.sequential, severities⟩).mapError
      .settings

/-- The profile that the settings ask for (`build_registry`). -/
def profile (s : Settings) : m (Except CommandError Profile) := do
  match s.policy with
  | none => return .error .noPolicy
  | some file =>
    match ← fs.read file with
    | .error e => return .error (.unreadablePolicy file e)
    | .ok source =>
      match Policy.read source with
      | .error e => return .error (.invalidPolicy file e)
      | .ok entries =>
        match Profile.ofPolicy entries with
        | .error e => return .error (.profile e)
        | .ok p => return .ok (p.disable s.disable)

/-- The targets of a run: the files that are named, and if none is, those that the settings mean. -/
def targets (s : Settings) (files : List String) : m (Except CommandError (List FileName)) := do
  let found ←
    if files.isEmpty then Targets.expand fs (some s.root) s.patterns
    else Targets.expand fs none files
  match found with
  | .error e => return .error (.target e)
  | .ok [] => return .error .noTargets
  | .ok ts => return .ok ts

/-- The document of a file (`load_json`). -/
def load (file : FileName) : m (Except Trouble Document) := do
  match ← fs.read file with
  | .error e => return .error (.unreadable file e)
  | .ok source => return (Document.read source).mapError (.malformed file)

/-- Lints targets, the part of `run_lint` that comes after the settings, the profile and the targets. Those
that are documents make up one batch, whose reports are in the order of the documents. -/
def lintTargets (colours : Bool) (s : Settings) (p : Profile) (ts : List FileName) :
    m Transcript := do
  let loaded ← ts.mapM fun file => return (file, ← load fs file)
  let documents := documentsOf loaded
  let batch := lintBatch (fun _ => undisturbed) s.mode p s.overrides (documents.map (·.2))
  let outcomes := (documents.map (·.1)).zip batch
  return told colours (defaultsNote colours s) s.output (faultsOf loaded ++ cancelledOf outcomes)
    (reportsOf outcomes)

/-- Does what the program is called for: `run_lint` or `run_rules`, or it tells the version. -/
def run (colours : Bool) : Command → m Transcript
  | .version => return ⟨versionText ++ "\n", "", .passed⟩
  | .signature => return ⟨programName ++ " " ++ versionText ++ "\n", "", .passed⟩
  | .lint files i => do
    match ← settings fs i with
    | .error e => return failed colours "" e
    | .ok s =>
      match ← profile fs s with
      | .error e => return failed colours (defaultsNote colours s) e
      | .ok p =>
        match ← targets fs s files with
        | .error e => return failed colours (defaultsNote colours s) e
        | .ok ts => lintTargets fs colours s p ts
  | .rules root policy => do
    match ← settings fs { Invocation.empty with root := root, policy := policy } with
    | .error e => return failed colours "" e
    | .ok s =>
      match ← profile fs s with
      | .error e => return failed colours (defaultsNote colours s) e
      | .ok p =>
        return ⟨Report.joinLines (p.rules.map ruleLine), defaultsNote colours s, .passed⟩

end

end Command

end DocLint
