import DocLint.Override

/-!
# Reports

A report holds what a run has found in one document, put together by `aggregate`: the findings in order and
each once, how many there are of each severity, and whether the document passed. Only errors make it fail.
-/

namespace DocLint

/-- What a run has found in one document. -/
structure Report where
  /-- The findings, in order and each once. -/
  findings : List Finding
  /-- The number of errors. -/
  errors : Nat
  /-- The number of warnings. -/
  warnings : Nat
  /-- The number of infos. -/
  infos : Nat
  /-- Whether there is no error. -/
  passed : Bool
  /-- The number of rules that were evaluated. -/
  rulesEvaluated : Nat
  deriving DecidableEq, Repr

/-- How a run ends, as a process tells it. -/
inductive ExitStatus where
  /-- Every document passed. -/
  | passed
  /-- A document has an error. -/
  | failed
  /-- Something could not be read, or the run was called off. -/
  | trouble
  deriving DecidableEq, Repr

namespace ExitStatus

/-- The number of an exit status. -/
def code : ExitStatus → Nat
  | passed => 0
  | failed => 1
  | trouble => 2

/-- The graver one of two exit statuses. -/
def max (a b : ExitStatus) : ExitStatus :=
  if a.code < b.code then b else a

end ExitStatus

namespace Report

/-- The number of findings of a severity. -/
def count (s : Severity) (fs : List Finding) : Nat :=
  fs.countP (·.severity = s)

/-- Drops every finding that equals the one before it. -/
def dropRepeats : List Finding → List Finding
  | [] => []
  | [f] => [f]
  | f :: g :: r => if f = g then dropRepeats (g :: r) else f :: dropRepeats (g :: r)

/-- The report of findings that are in order and each once. -/
def ofSorted (fs : List Finding) (rulesEvaluated : Nat) : Report :=
  { findings := fs
    errors := count .error fs
    warnings := count .warning fs
    infos := count .info fs
    passed := count .error fs == 0
    rulesEvaluated := rulesEvaluated }

/-- The report of some findings (`aggregate`): overrides are applied, then the findings are sorted and
repeated ones dropped, then they are counted. -/
def aggregate (fs : List Finding) (o : Overrides) (rulesEvaluated : Nat) : Report :=
  ofSorted (dropRepeats (Finding.sort (fs.map o.apply))) rulesEvaluated

/-- Whether no rule was evaluated, which is not the same as a clean pass (`Report::no_rules_ran`). -/
def isVoid (r : Report) : Bool := r.rulesEvaluated == 0

/-- The exit status of one report (`Report::exit_code`). -/
def exitStatus (r : Report) : ExitStatus :=
  if r.passed then .passed else .failed

end Report

end DocLint
