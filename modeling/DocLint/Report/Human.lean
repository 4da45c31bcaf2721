import DocLint.Report.Text

/-!
# Reports for a terminal

The lines of a report, indented under the name of the file, as `print_lint` writes them for `human`. Colours
are put around a text by escape sequences and change nothing else.
-/

namespace DocLint

/-- A text between two escape sequences, the numbers of which are given. -/
def styled (on off : String) (s : String) : String :=
  "\x1b[" ++ on ++ "m" ++ s ++ "\x1b[" ++ off ++ "m"

/-- A text in bold, if colours are wanted. -/
def bold (colours : Bool) (s : String) : String :=
  if colours then styled "1" "0" s else s

/-- The colours of the terminal that are used. -/
inductive Colour where
  /-- For errors. -/
  | red
  /-- For warnings. -/
  | yellow
  /-- For infos. -/
  | blue
  /-- For notes. -/
  | cyan
  deriving DecidableEq, Repr

/-- The number by which a colour is switched on. -/
def Colour.code : Colour → String
  | red => "31"
  | yellow => "33"
  | blue => "34"
  | cyan => "36"

/-- A text in a colour, if colours are wanted. -/
def coloured (colours : Bool) (c : Colour) (s : String) : String :=
  if colours then styled c.code "39" s else s

/-- The colour of a severity. -/
def Severity.colour : Severity → Colour
  | error => .red
  | warning => .yellow
  | info => .blue

namespace Report

/-- The line of a finding, its severity in colour. -/
def humanLine (colours : Bool) (f : Finding) : String :=
  f.lineWith (bold colours (coloured colours f.severity.colour f.severity.text))

/-- The lines of a report for a terminal (`print_lint`): the file, then the report's lines two
columns further in. -/
def humanLines (colours : Bool) (file : String) (r : Report) : List String :=
  bold colours file ::
    ((r.findings.map (humanLine colours) ++
        (if r.isVoid then [coloured colours .yellow voidLine] else []) ++
        [bold colours r.summaryLine]).map ("  " ++ ·))

/-- The reports of some files for a terminal. -/
def renderHuman (colours : Bool) (reports : List (String × Report)) : String :=
  joinLines (reports.flatMap fun e => humanLines colours e.1 e.2)

end Report

end DocLint
