import DocLint.Text.Blank

/-!
# Severities

How grave a finding is. Only an error fails a run. A severity is written in lower case and read in any
case, with white space around it and by the short names `err` and `warn`, too.
-/

namespace DocLint

/-- How grave a finding is. -/
inductive Severity where
  /-- Fails the run. -/
  | error
  /-- Worth mending. -/
  | warning
  /-- Worth knowing. -/
  | info
  deriving DecidableEq, Repr

/-- A text that names no severity, trimmed and in lower case. -/
structure UnknownSeverity where
  /-- The text. -/
  name : String
  deriving DecidableEq, Repr

/-- An unknown severity, as it is told to people. -/
def UnknownSeverity.message (e : UnknownSeverity) : String :=
  "unknown severity '" ++ e.name ++ "' (expected error|warning|info)"

namespace Severity

/-- The name of a severity. -/
def text : Severity → String
  | error => "error"
  | warning => "warning"
  | info => "info"

/-- The place of a severity in the order of gravity (`severity_rank`). -/
def rank : Severity → Nat
  | error => 0
  | warning => 1
  | info => 2

/-- The text with its ASCII letters in lower case. -/
def lowerCase (s : String) : String :=
  String.ofList (s.toList.map Char.toLower)

/-- Reads a severity (`Severity::from_str`). -/
def read (s : String) : Except UnknownSeverity Severity :=
  let name := lowerCase (Text.trim s)
  if name = "error" ∨ name = "err" then .ok error
  else if name = "warning" ∨ name = "warn" then .ok warning
  else if name = "info" then .ok info
  else .error ⟨name⟩

end Severity

end DocLint
