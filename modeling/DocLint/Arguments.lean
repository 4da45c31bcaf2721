import DocLint.Command

/-!
# Command lines

The words of a command line (`Cli`) are operands, switches, and options with a value. A value is the next
word or stands in the same word after an equals sign. After a lone `--` there are only operands.
-/

namespace DocLint

/-- What is wrong with a command line. -/
inductive UsageError where
  /-- There is no command. -/
  | noCommand
  /-- There is no such command. -/
  | unknownCommand (word : String)
  /-- A word that is not expected. -/
  | unexpected (word : String)
  /-- An option without a value. -/
  | missingValue (option : String)
  /-- A switch with a value. -/
  | needlessValue (option : String)
  /-- An option that must not be there twice. -/
  | repeated (option : String)
  deriving DecidableEq, Repr

/-- What is wrong with a command line, as it is told to people. -/
def UsageError.message : UsageError → String
  | .noCommand => "a command is required: version, lint or rules"
  | .unknownCommand w => "unrecognized subcommand '" ++ w ++ "'"
  | .unexpected w => "unexpected argument '" ++ w ++ "' found"
  | .missingValue o => "a value is required for '" ++ o ++ "' but none was supplied"
  | .needlessValue o => "unexpected value for '" ++ o ++ "' found; no more were expected"
  | .repeated o => "the argument '" ++ o ++ "' cannot be used multiple times"

/-- A part of a command line. -/
inductive Argument where
  /-- A word that is no option. -/
  | operand (word : String)
  /-- An option with its value. -/
  | option (name value : String)
  /-- An option without a value. -/
  | switch (name : String)
  deriving DecidableEq, Repr

/-- The options that a command knows. -/
structure KnownOptions where
  /-- Those with a value. -/
  valued : List String
  /-- Those without. -/
  switches : List String

namespace Argument

/-- Whether a word can only be an option. -/
def isOption (word : String) : Bool :=
  match word.toList with
  | ['-'] => false
  | '-' :: _ => true
  | _ => false

/-- The name of an option and the value in the same word. -/
def split (word : String) : String × Option String :=
  let cs := word.toList
  let name := cs.takeWhile (· ≠ '=')
  match cs.drop name.length with
  | [] => (word, none)
  | _ :: value => (String.ofList name, some (String.ofList value))

/-- Reads the words of a command line. -/
def read (known : KnownOptions) : List String → Except UsageError (List Argument)
  | [] => .ok []
  | word :: words =>
    if word = "--" then .ok (words.map operand)
    else if isOption word then
      let (name, value?) := split word
      if known.valued.contains name then
        match value? with
        | some value => (read known words).map (option name value :: ·)
        | none =>
          match words with
          | [] => .error (.missingValue name)
          | value :: rest =>
            if isOption value then .error (.missingValue name)
            else (read known rest).map (option name value :: ·)
      else if known.switches.contains name then
        match value? with
        | some _ => .error (.needlessValue name)
        | none => (read known words).map (switch name :: ·)
      else .error (.unexpected word)
    else (read known words).map (operand word :: ·)

/-- The operands. -/
def operands (args : List Argument) : List String :=
  args.filterMap fun
    | operand w => some w
    | _ => none

/-- The values of an option, in order. -/
def values (name : String) (args : List Argument) : List String :=
  args.filterMap fun
    | option n v => if n = name then some v else none
    | _ => none

/-- The value of an option that must not be there twice. -/
def value? (name : String) (args : List Argument) : Except UsageError (Option String) :=
  match values name args with
  | [] => .ok none
  | [v] => .ok (some v)
  | _ => .error (.repeated name)

/-- Whether a switch that must not be there twice is there. -/
def isOn (name : String) (args : List Argument) : Except UsageError Bool :=
  match args.count (switch name) with
  | 0 => .ok false
  | 1 => .ok true
  | _ => .error (.repeated name)

end Argument

namespace Command

/-- The options of linting. -/
def lintOptions : KnownOptions :=
  { valued := ["--repo-root", "--policy", "--output", "--severity"]
    switches := ["--sequential"] }

/-- The options of listing rules. -/
def rulesOptions : KnownOptions :=
  { valued := ["--repo-root", "--policy"]
    switches := [] }

/-- Refuses operands. -/
def noOperands (args : List Argument) : Except UsageError Unit :=
  match Argument.operands args with
  | [] => .ok ()
  | w :: _ => .error (.unexpected w)

/-- The command of a command line. -/
def read : List String → Except UsageError Command
  | [] => .error .noCommand
  | "--version" :: _ | "-V" :: _ => .ok .signature
  | "version" :: words => do
    noOperands (← Argument.read ⟨[], []⟩ words)
    return .version
  | "lint" :: words => do
    let args ← Argument.read lintOptions words
    return .lint (Argument.operands args) {
      root := ← Argument.value? "--repo-root" args
      policy := ← Argument.value? "--policy" args
      output := ← Argument.value? "--output" args
      severities := Argument.values "--severity" args
      sequential := ← Argument.isOn "--sequential" args }
  | "rules" :: words => do
    let args ← Argument.read rulesOptions words
    noOperands args
    return .rules (← Argument.value? "--repo-root" args) (← Argument.value? "--policy" args)
  | word :: _ => .error (.unknownCommand word)

/-- Does what a command line asks for. -/
def runLine {m : Type → Type} [Monad m] (fs : Files m) (colours : Bool) (words : List String) :
    m Transcript :=
  match read words with
  | .ok c => run fs colours c
  | .error e => return ⟨"", complaint colours e.message, .trouble⟩

end Command

end DocLint
