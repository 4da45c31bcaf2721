import DocLint.Report.Human
import DocLint.Report.Json
import DocLint.Report.Text

/-!
# Output

The reports of a run are told in one of three ways (`print_lint`). Only the one for a terminal has colours.
-/

namespace DocLint

/-- How the reports of a run are told. -/
inductive OutputMode where
  /-- For a terminal. -/
  | human
  /-- As plain lines, each attributed to its file. -/
  | text
  /-- As JSON. -/
  | json
  deriving DecidableEq, Repr

namespace OutputMode

/-- The name of an output mode. -/
def name : OutputMode → String
  | human => "human"
  | text => "text"
  | json => "json"

/-- The output mode of a name. -/
def read? (s : String) : Option OutputMode :=
  [human, text, json].find? (·.name = s)

/-- The reports of some files, told (`print_lint`). -/
def render (mode : OutputMode) (colours : Bool) (reports : List (String × Report)) : String :=
  match mode with
  | human => Report.renderHuman colours reports
  | text => String.join (reports.map fun e => Report.renderFileText e.1 e.2)
  | json => Report.renderJson reports

end OutputMode

end DocLint
