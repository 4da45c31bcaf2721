import DocLint.Report

/-!
# Reports as plain lines

`render_text` tells a report as one line for each finding, a line that warns if no rule was evaluated, and a
line with the counts. What comes from documents and policies is put on one line first (`one_line`), so that
it cannot break a line apart or pass for another one.
-/

namespace DocLint

open DocLint.Text

/-- The line of a finding, with its severity written as given (`line_body`). -/
def Finding.lineWith (f : Finding) (severity : String) : String :=
  severity ++ ": " ++ oneLine f.message ++ " (" ++ oneLine f.rule ++ ") at " ++
    oneLine f.path.render ++ " [" ++ ofNat f.span.startLine ++ ":" ++ ofNat f.span.startColumn ++ "]"

/-- The line of a finding (`diagnostic_line`). -/
def Finding.line (f : Finding) : String :=
  f.lineWith f.severity.text

namespace Report

/-- The line that warns of an empty profile. -/
def voidLine : String := "warning: no rules were evaluated (the lint profile is empty)"

/-- The line with the counts (`summary_line`). -/
def summaryLine (r : Report) : String :=
  ofNat r.errors ++ " error(s), " ++ ofNat r.warnings ++ " warning(s), " ++ ofNat r.infos ++ " info"

/-- The lines of a report. -/
def lines (r : Report) : List String :=
  r.findings.map Finding.line ++ (if r.isVoid then [voidLine] else []) ++ [r.summaryLine]

/-- Lines as one text, each ended by a line feed. -/
def joinLines (ls : List String) : String :=
  String.join (ls.map (· ++ "\n"))

/-- The text of a report (`render_text`). -/
def renderText (r : Report) : String :=
  joinLines r.lines

/-- The lines of a report, each attributed to a file. -/
def fileLines (file : String) (r : Report) : List String :=
  r.lines.map fun l => oneLine file ++ ": " ++ l

/-- The text of a report with each line attributed to a file (`render_file_text`). -/
def renderFileText (file : String) (r : Report) : String :=
  joinLines (fileLines file r)

end Report

end DocLint
