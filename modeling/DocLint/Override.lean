import DocLint.Finding

/-!
# Severity overrides

An operator may give the findings of a rule another severity (`SeverityOverrides`), also by flags
(`parse_severity_flag`). Overrides are kept by rule name; names of rules that find nothing do no harm. Of two
entries for a name the later one counts.
-/

namespace DocLint

/-- The severities that an operator chose, by rule name (`SeverityOverrides`). An earlier entry hides the
later ones of the same name. -/
structure Overrides where
  /-- The entries, the one set last first. -/
  entries : List (String × Severity)
  deriving DecidableEq, Repr

namespace Overrides

/-- No override. -/
def empty : Overrides := ⟨[]⟩

/-- Whether there is no override. -/
def isEmpty (o : Overrides) : Bool := o.entries.isEmpty

/-- The severity chosen for a rule. -/
def get? (o : Overrides) (rule : String) : Option Severity :=
  (o.entries.find? (·.1 = rule)).map (·.2)

/-- Chooses a severity for a rule (`SeverityOverrides::set`). -/
def set (o : Overrides) (rule : String) (s : Severity) : Overrides :=
  ⟨(rule, s) :: o.entries⟩

/-- Sets entries one after the other. -/
def setAll (o : Overrides) (entries : List (String × Severity)) : Overrides :=
  entries.foldl (fun o e => o.set e.1 e.2) o

/-- The overrides of some entries, of which later ones count. -/
def ofList (entries : List (String × Severity)) : Overrides :=
  empty.setAll entries

/-- Both overrides (`SeverityOverrides::merge`); where they differ, those of `later` count. -/
def merge (o later : Overrides) : Overrides :=
  ⟨later.entries ++ o.entries⟩

/-- A finding with the severity chosen for its rule (`SeverityOverrides::apply`). -/
def apply (o : Overrides) (f : Finding) : Finding :=
  match o.get? f.rule with
  | some s => { f with severity := s }
  | none => f

end Overrides

/-- Why a text is no `rule=level` flag. -/
inductive FlagError where
  /-- No equals sign. -/
  | noEquals (flag : String)
  /-- No rule before the last equals sign. -/
  | noRule (flag : String)
  /-- No severity after it. -/
  | unknown (cause : UnknownSeverity)
  deriving DecidableEq, Repr

/-- Why a text is no flag, as it is told to people. -/
def FlagError.message : FlagError → String
  | .noEquals f => "expected rule=level, got '" ++ f ++ "'"
  | .noRule f => "missing rule name in '" ++ f ++ "'"
  | .unknown c => c.message

/-- The parts of a text before and after the last occurrence of a character. -/
def splitLast? (mark : Char) : List Char → Option (List Char × List Char)
  | [] => none
  | c :: r =>
    match splitLast? mark r with
    | some (a, b) => some (c :: a, b)
    | none => if c = mark then some ([], r) else none

/-- Reads a `rule=level` flag (`parse_severity_flag`). The rule is all that stands before the last equals
sign, trimmed. -/
def readFlag (flag : String) : Except FlagError (String × Severity) :=
  match splitLast? '=' flag.toList with
  | none => .error (.noEquals flag)
  | some (rule, level) =>
    let rule := Text.trimChars rule
    if rule.isEmpty then .error (.noRule flag)
    else
      match Severity.read (String.ofList level) with
      | .ok s => .ok (String.ofList rule, s)
      | .error e => .error (.unknown e)

end DocLint
