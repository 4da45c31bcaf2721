import DocLint.Rule

/-!
# Scripted rules

A rule can be given as an `FnRule`, here as a list of steps that are carried out one after the other. Steps
collect findings, test that a path exists, end the evaluation in one of the ways in which evaluations end, or
call off runs. Without a step that ends it, the evaluation ends with the findings collected.
-/

namespace DocLint

/-- A step of a scripted rule. -/
inductive ScriptStep where
  /-- A finding at a path. Where there is no such path the rule does not apply. -/
  | report (path : Path) (message : String)
  /-- A path that has to exist. Where there is none the rule fails. -/
  | require (path : Path)
  /-- A finding as it is given, wherever it is. -/
  | raw (finding : Finding)
  /-- The rule does not apply. -/
  | inapplicable (reason : String)
  /-- The rule fails. -/
  | fail (message : String)
  /-- The rule breaks down. -/
  | crash (message : Option String)
  /-- A token is cancelled. -/
  | cancel (token : Token)
  deriving DecidableEq, Repr

/-- A list of steps. -/
abbrev Script := List ScriptStep

namespace Script

/-- Carries out the steps of the rule of a name and a severity. Gives the outcome and the tokens
cancelled; `found` holds the findings collected so far, the last one first. -/
def run (name : String) (severity : Severity) (root : Node) (found : List Finding) :
    Script → Outcome × List Token
  | [] => (.findings found.reverse, [])
  | .report p m :: r =>
    match root.resolve p with
    | .ok n => run name severity root (.atNode n name severity m :: found) r
    | .error e => (.inapplicable e.message, [])
  | .require p :: r =>
    match root.resolve p with
    | .ok _ => run name severity root found r
    | .error e => (.failed ("malformed: " ++ e.message), [])
  | .raw f :: r => run name severity root (f :: found) r
  | .inapplicable reason :: _ => (.inapplicable reason, [])
  | .fail m :: _ => (.failed m, [])
  | .crash m :: _ => (.crashed m, [])
  | .cancel t :: r =>
    let (outcome, tokens) := run name severity root found r
    (outcome, t :: tokens)

/-- The rule that carries out a script (`FnRule`). -/
def toRule (name : String) (severity : Severity) (s : Script) : Rule where
  name := name
  severity := severity
  summary := ""
  evaluate := fun root => (s.run name severity root []).1
  cancels := fun root => (s.run name severity root []).2

end Script

end DocLint
