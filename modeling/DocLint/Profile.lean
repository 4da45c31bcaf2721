import DocLint.Check

/-!
# Profiles

A profile is the list of rules that documents are checked by, in the order of registration (`RuleRegistry`).
No two rules have the same name and no name is blank: `RuleRegistry::register` refuses such rules and leaves
the profile as it is.

A policy is compiled entry by entry (`RuleRegistry::from_policy`). The first entry that cannot be compiled
or registered decides why the whole policy cannot; within an entry the selector comes first, then the
pattern, then the name.
-/

namespace DocLint

/-- What an entry of a policy asks for, before its pattern has been read. -/
inductive Demand where
  /-- A required path. -/
  | required (condition : Option Condition)
  /-- A forbidden path. -/
  | forbidden
  /-- A pattern, as it is written. -/
  | pattern (source : String)
  /-- An order of children. -/
  | order (labels : List String) (labelKey : Option String)
  /-- A type. -/
  | type (expected : Expected)
  deriving DecidableEq, Repr

/-- The name of the family that an entry asks for. -/
def Demand.name : Demand → String
  | required _ => "required"
  | forbidden => "forbidden"
  | pattern _ => "pattern"
  | order .. => "order"
  | type _ => "type"

/-- An entry of a policy (`RuleSpec`). -/
structure PolicyEntry where
  /-- The name of the rule. -/
  name : String
  /-- The selector, as it is written. -/
  path : String
  /-- What is asked for. -/
  demand : Demand
  /-- The severity, if the entry has one. -/
  level : Option Severity
  /-- The message, if the entry has one. -/
  message : Option String
  deriving DecidableEq, Repr

/-- Why a rule or a policy cannot be taken into a profile (`LintError`). -/
inductive ProfileError where
  /-- A blank name. -/
  | emptyName
  /-- A name that is taken. -/
  | duplicateName (name : String)
  /-- A selector that cannot be read. -/
  | invalidSelector (rule selector : String) (cause : SelectorError)
  /-- A pattern that cannot be read. -/
  | invalidPattern (rule : String) (cause : Regex.PatternError)
  deriving DecidableEq, Repr

/-- Why a rule or a policy cannot be taken, as it is told to people. -/
def ProfileError.message : ProfileError → String
  | .emptyName => "rule name must not be empty"
  | .duplicateName n => "duplicate rule name '" ++ n ++ "'"
  | .invalidSelector r s c =>
    "rule '" ++ r ++ "' has an invalid path selector '" ++ s ++ "': " ++ c.message
  | .invalidPattern r c => "rule '" ++ r ++ "' has an invalid pattern: " ++ c.message

namespace PolicyEntry

/-- The family that an entry asks for. -/
def family (e : PolicyEntry) : Except ProfileError Family :=
  match e.demand with
  | .required c => .ok (.required c)
  | .forbidden => .ok .forbidden
  | .pattern source =>
    match Pattern.read source with
    | .ok p => .ok (.pattern p)
    | .error cause => .error (.invalidPattern e.name cause)
  | .order labels labelKey => .ok (.order labels labelKey)
  | .type expected => .ok (.type expected)

/-- Compiles an entry (`BuiltinRule::from_spec`): its selector first, then its pattern. -/
def compile (e : PolicyEntry) : Except ProfileError Check :=
  match Selector.read e.path with
  | .error cause => .error (.invalidSelector e.name e.path cause)
  | .ok selector =>
    e.family.map fun family =>
      { name := e.name
        severity := e.level.getD family.severity
        message := e.message
        selector := selector
        family := family }

end PolicyEntry

/-- The rules that documents are checked by, in the order of registration (`RuleRegistry`). -/
structure Profile where
  /-- The rules. -/
  rules : List Rule

namespace Profile

/-- The profile without rules. -/
def empty : Profile := ⟨[]⟩

/-- The names of the rules. -/
def names (p : Profile) : List String := p.rules.map (·.name)

/-- The number of rules (`RuleRegistry::len`). -/
def size (p : Profile) : Nat := p.rules.length

/-- Whether a rule of a name is registered (`RuleRegistry::contains`). -/
def contains (p : Profile) (name : String) : Bool := p.rules.any (·.name = name)

/-- Adds a rule at the end, unless its name is blank or taken (`RuleRegistry::register`). -/
def register (p : Profile) (r : Rule) : Except ProfileError Profile :=
  if Text.isBlankText r.name then .error .emptyName
  else if p.contains r.name then .error (.duplicateName r.name)
  else .ok ⟨p.rules ++ [r]⟩

/-- Removes the rule of a name, if there is one (`RuleRegistry::unregister`). -/
def unregister (p : Profile) (name : String) : Profile :=
  ⟨p.rules.filter (·.name ≠ name)⟩

/-- Removes the rules of some names. -/
def disable (p : Profile) (names : List String) : Profile :=
  names.foldl unregister p

/-- Compiles and registers the entries of a policy, one after the other. -/
def extend (p : Profile) : List PolicyEntry → Except ProfileError Profile
  | [] => .ok p
  | e :: r =>
    match e.compile with
    | .error cause => .error cause
    | .ok check =>
      match p.register check.toRule with
      | .error cause => .error cause
      | .ok p' => p'.extend r

/-- The profile of a policy (`RuleRegistry::from_policy`). -/
def ofPolicy (entries : List PolicyEntry) : Except ProfileError Profile :=
  empty.extend entries

end Profile

end DocLint
