import DocLint.Document.Node
import DocLint.Severity

/-!
# Findings

A finding says what one rule has to say about one place of a document (`Diagnostic`). Findings are reported
in the order of the document; `Finding.compare` follows `Diagnostic::report_order` and breaks every tie, so
that only equal findings compare equal.
-/

namespace DocLint

/-- What a rule has to say about a place of a document (`Diagnostic`). -/
structure Finding where
  /-- The name of the rule. -/
  rule : String
  /-- How grave it is. -/
  severity : Severity
  /-- What there is to say. -/
  message : String
  /-- The path of the place. -/
  path : Path
  /-- The span of the place. -/
  span : Span
  deriving DecidableEq, Repr

namespace Finding

/-- The finding about a node (`Diagnostic::at`). -/
def atNode (n : Node) (rule : String) (severity : Severity) (message : String) : Finding :=
  ⟨rule, severity, message, n.path, n.span⟩

/-- The order of reports (`Diagnostic::report_order`): by where the span starts, by rule and by message; then
by path, by where the span ends and by severity, which only break ties. -/
def compare : Finding → Finding → Ordering :=
  compareLex (compareOn fun f => f.span.startLine) <|
  compareLex (compareOn fun f => f.span.startColumn) <|
  compareLex (compareOn fun f => f.rule) <|
  compareLex (compareOn fun f => f.message) <|
  compareLex (fun f g => Path.compare f.path g.path) <|
  compareLex (compareOn fun f => f.span.endLine) <|
  compareLex (compareOn fun f => f.span.endColumn) <|
  compareOn fun f => f.severity.rank

/-- Whether a finding may stand before another in a report. -/
def precedes (f g : Finding) : Bool :=
  (compare f g).isLE

/-- Findings in the order of reports. -/
def sort (fs : List Finding) : List Finding :=
  fs.mergeSort precedes

end Finding

end DocLint
