import DocLint.Report
import DocLint.Json.Value

/-!
# Reports as JSON

`compose_batch_json` makes the reports of a run one array, with the name of the file in front of each
report's own fields. A path is an array in which keys are strings and indices are numbers.
-/

namespace DocLint

open Json (Value)

/-- A segment as a value. -/
def Segment.toValue : Segment → Value
  | .key k => .string k
  | .index i => .nat i

/-- A span as a value. -/
def Span.toValue (s : Span) : Value :=
  .object [("startLine", .nat s.startLine), ("startColumn", .nat s.startColumn),
    ("endLine", .nat s.endLine), ("endColumn", .nat s.endColumn)]

/-- A finding as a value. -/
def Finding.toValue (f : Finding) : Value :=
  .object [("ruleName", .string f.rule), ("severity", .string f.severity.text),
    ("message", .string f.message), ("path", .array (f.path.map Segment.toValue)),
    ("position", f.span.toValue)]

namespace Report

/-- The report of a file as a value (`FileReport`). -/
def toValue (file : String) (r : Report) : Value :=
  .object [("file", .string file), ("diagnostics", .array (r.findings.map Finding.toValue)),
    ("errorCount", .nat r.errors), ("warningCount", .nat r.warnings), ("infoCount", .nat r.infos),
    ("passed", .boolean r.passed), ("rulesEvaluated", .nat r.rulesEvaluated)]

/-- The reports of some files as one value (`compose_batch_json`). -/
def batchValue (reports : List (String × Report)) : Value :=
  .array (reports.map fun e => e.2.toValue e.1)

/-- The reports of some files as indented JSON, ended by a line feed. -/
def renderJson (reports : List (String × Report)) : String :=
  (batchValue reports).pretty ++ "\n"

end Report

end DocLint
