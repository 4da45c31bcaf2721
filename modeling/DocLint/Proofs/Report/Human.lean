import DocLint.Output
import DocLint.Proofs.Report.Lines
import DocLint.Proofs.Text.Style

/-!
# Proofs: reports for a terminal

For a terminal (`print_lint`), the lines of a report stand under the name of the file, two columns further in.
Findings and counts are plain there, too, so they add no line. The name of the file is written as it is: a line feed
in it adds a line, and without control characters in the names of files the lines are told apart
(`renderHuman_told_by_lines_iff`). Colours are styles around parts of these lines, and nothing but styles
(`renderHuman_unstyled`).
-/

namespace DocLint

open Text

/-- But for the severity, the line of a finding is plain. -/
theorem Finding.exists_lineWith_eq (f : Finding) : ∃ t, Plain t ∧ ∀ severity, f.lineWith severity = severity ++ t := by
  have hcolon : Plain ": " := by decide
  have hplain : Plain f.line := f.plain_line
  refine ⟨": " ++ oneLine f.message ++ " (" ++ oneLine f.rule ++ ") at " ++ oneLine f.path.render ++ " [" ++
    ofNat f.span.startLine ++ ":" ++ ofNat f.span.startColumn ++ "]", ?_, fun severity => ?_⟩
  · simp only [line, lineWith, plain_append_iff] at hplain
    simp only [plain_append_iff, hcolon, hplain, and_self]
  · simp only [lineWith, String.append_assoc]

namespace Report

/-! ## Without colours -/

/-- A line two columns further in. -/
def indented (l : String) : String :=
  "  " ++ l

/-- The lines of a report under the name of its file. -/
def entryLines (e : String × Report) : List String :=
  e.1 :: e.2.lines.map indented

theorem renderHuman_false (reports : List (String × Report)) :
    renderHuman false reports = joinLines (reports.flatMap entryLines) :=
  rfl

theorem plain_indented {l : String} (h : Plain l) : Plain (indented l) :=
  plain_append_iff.mpr ⟨by decide, h⟩

theorem plain_of_mem_indented {r : Report} {l : String} (hl : l ∈ r.lines.map indented) : Plain l := by
  obtain ⟨m, hm, rfl⟩ := List.mem_map.mp hl
  exact plain_indented (plain_of_mem_lines hm)

/-- What holds of plain lines holds of all lines exactly if it holds of the names of files. -/
theorem forall_mem_entryLines_iff {q : String → Prop} (hq : ∀ l, Plain l → q l) {reports : List (String × Report)} :
    (∀ l ∈ reports.flatMap entryLines, q l) ↔ ∀ e ∈ reports, q e.1 := by
  simp only [List.forall_mem_flatMap, entryLines, List.forall_mem_cons]
  exact forall₂_congr fun e _ => and_iff_left fun l hl => hq l (plain_of_mem_indented hl)

theorem length_lines (r : Report) :
    r.lines.length = r.findings.length + (if r.rulesEvaluated = 0 then 1 else 0) + 1 := by
  rw [lines_eq, List.length_append, List.length_append, List.length_map, List.length_replicate, List.length_singleton]

theorem length_entryLines (e : String × Report) :
    (entryLines e).length = 2 + e.2.findings.length + if e.2.rulesEvaluated = 0 then 1 else 0 := by
  rw [entryLines, List.length_cons, List.length_map, length_lines]
  omega

/-- The line feeds in the names of files are all that the lines hold. -/
theorem sum_newlines_entryLines (reports : List (String × Report)) :
    ((reports.flatMap entryLines).map fun l => l.toList.count '\n').sum =
      (reports.map fun e => e.1.toList.count '\n').sum := by
  induction reports with
  | nil => rfl
  | cons e es ih =>
    have hplain : ((e.2.lines.map indented).map fun l => l.toList.count '\n').sum = 0 :=
      sum_newlines_eq_zero_iff.mpr fun l hl => (plain_of_mem_indented hl).not_mem (by decide)
    rw [List.flatMap_cons, List.map_append, List.sum_append, ih, entryLines, List.map_cons, List.sum_cons, hplain,
      List.map_cons, List.sum_cons, Nat.add_zero]

theorem splitLines_render_text (colours : Bool) (reports : List (String × Report)) :
    splitLines (OutputMode.text.render colours reports) = reports.flatMap fun e => fileLines e.1 e.2 := by
  have hlines : OutputMode.text.render colours reports = joinLines (reports.flatMap fun e => fileLines e.1 e.2) :=
    (joinLines_flatMap _ reports).symm
  rw [hlines]
  refine splitLines_joinLines fun l hl => ?_
  obtain ⟨e, -, hl⟩ := List.mem_flatMap.mp hl
  exact plain_of_mem_fileLines hl

/-- Control characters other than the line feeds at the ends of lines come from the names of files. -/
theorem eq_newline_or_exists_of_mem_renderHuman {reports : List (String × Report)} {c : Char}
    (hc : c ∈ (renderHuman false reports).toList) (hcontrol : isControl c = true) :
    c = '\n' ∨ ∃ e ∈ reports, c ∈ e.1.toList := by
  rw [renderHuman_false] at hc
  rcases mem_joinLines hc with hfeed | ⟨l, hl, hcl⟩
  · exact .inl hfeed
  · obtain ⟨e, he, hl⟩ := List.mem_flatMap.mp hl
    rcases List.mem_cons.mp hl with rfl | hl
    · exact .inr ⟨e, he, hcl⟩
    · exact absurd hcl ((plain_of_mem_indented hl).not_mem hcontrol)

theorem count_newline_renderHuman (reports : List (String × Report)) :
    (renderHuman false reports).toList.count '\n' =
      (reports.flatMap entryLines).length + (reports.map fun e => e.1.toList.count '\n').sum := by
  rw [renderHuman_false, count_newline_joinLines_eq_add, sum_newlines_entryLines]

/-- The lines are told apart exactly if no name of a file holds a line feed or has a carriage return at its end. -/
theorem splitLines_renderHuman_iff {reports : List (String × Report)} :
    splitLines (renderHuman false reports) = reports.flatMap entryLines ↔
      ∀ e ∈ reports, '\n' ∉ e.1.toList ∧ e.1.toList.getLast? ≠ some '\r' := by
  rw [renderHuman_false, splitLines_joinLines_iff]
  refine forall_mem_entryLines_iff (q := fun l => '\n' ∉ l.toList ∧ l.toList.getLast? ≠ some '\r') fun l hl => ?_
  exact ⟨hl.not_mem (by decide), fun hlast => hl.not_mem (by decide) (List.mem_of_getLast? hlast)⟩

/-- For a terminal without colours, the name of a file is followed by a line for each finding, the warning if no rule
was evaluated, and the counts. All but the name of the file is plain, so control characters other than the line feeds
at the ends of lines come from the names of files. The output has as many lines as that exactly if there is no line
feed in the name of a file, and these lines are told apart exactly if no carriage return ends one, either. As plain
lines, each attributed to its file, they are told apart whatever the names are. -/
theorem renderHuman_told_by_lines_iff (reports : List (String × Report)) :
    let void (r : Report) := if r.rulesEvaluated = 0 then 1 else 0
    let body (r : Report) := r.findings.map Finding.line ++ List.replicate (void r) voidLine ++ [r.summaryLine]
    let told := reports.flatMap fun e => e.1 :: (body e.2).map ("  " ++ ·)
    let size := (reports.map fun e => 2 + e.2.findings.length + void e.2).sum
    let output := OutputMode.human.render false reports
    output = String.join (told.map (· ++ "\n")) ∧
    told.length = size ∧
    (∀ e ∈ reports, ∀ l ∈ body e.2, Plain l) ∧
    (∀ c ∈ output.toList, isControl c = true → c = '\n' ∨ ∃ e ∈ reports, c ∈ e.1.toList) ∧
    output.toList.count '\n' = size + (reports.map fun e => e.1.toList.count '\n').sum ∧
    (output.toList.count '\n' = size ↔ ∀ e ∈ reports, '\n' ∉ e.1.toList) ∧
    (splitLines output = told ↔ ∀ e ∈ reports, '\n' ∉ e.1.toList ∧ e.1.toList.getLast? ≠ some '\r') ∧
    ∀ colours, splitLines (OutputMode.text.render colours reports) =
      reports.flatMap fun e => (body e.2).map (oneLine e.1 ++ ": " ++ ·) := by
  intro void body told size output
  have hbody : ∀ r : Report, r.lines = body r := lines_eq
  have htold : reports.flatMap entryLines = told := by
    simp only [told, ← hbody]
    rfl
  have hlength : (reports.flatMap entryLines).length = size := by
    rw [List.length_flatMap]
    exact congrArg List.sum (List.map_congr_left fun e _ => length_entryLines e)
  have hcount : output.toList.count '\n' = size + (reports.map fun e => e.1.toList.count '\n').sum :=
    hlength ▸ count_newline_renderHuman reports
  refine ⟨?_, htold ▸ hlength, ?_, ?_, hcount, ?_, ?_, ?_⟩
  · rw [← htold]
    rfl
  · intro e _ l hl
    rw [← hbody] at hl
    exact plain_of_mem_lines hl
  · intro c hc hcontrol
    exact eq_newline_or_exists_of_mem_renderHuman hc hcontrol
  · rw [hcount, Nat.add_eq_left]
    simp only [List.sum_eq_zero_iff, List.forall_mem_map, List.count_eq_zero]
  · rw [← htold]
    exact splitLines_renderHuman_iff
  · intro colours
    rw [splitLines_render_text]
    simp only [fileLines, hbody]

/-- A line feed in the name of a file passes for the end of its line, and what follows it for a line of its own. -/
theorem renderHuman_not_told_by_lines :
    let file := String.ofList ['a', '\n', 'b']
    let report := aggregate [] .empty 1
    let output := OutputMode.human.render false [(file, report)]
    report.findings.length = 0 ∧ report.rulesEvaluated ≠ 0 ∧ output.toList.count '\n' ≠ 2 ∧
      splitLines output = ["a", "b", "  0 error(s), 0 warning(s), 0 info"] ∧
      splitLines (OutputMode.text.render false [(file, report)]) = ["a\\nb: 0 error(s), 0 warning(s), 0 info"] := by
  decide +kernel

/-! ## In colours -/

theorem shows_humanLine (colours : Bool) (f : Finding) : Shows (humanLine colours f) f.line := by
  obtain ⟨t, ht, hline⟩ := f.exists_lineWith_eq
  rw [humanLine, Finding.line, hline, hline]
  have hseverity : Shows f.severity.text f.severity.text := f.severity.plain_text.shows_self
  exact ((hseverity.coloured colours f.severity.colour).bold colours).append ht.shows_self

theorem shows_indented {l m : String} (h : Shows l m) : Shows ("  " ++ l) (indented m) :=
  (Text.shows_self (by decide)).append h

/-- Each line in colours shows the line without them. -/
theorem forall₂_shows_humanLines {file : String} (h : escape ∉ file.toList) (colours : Bool) (r : Report) :
    List.Forall₂ Shows (humanLines colours file r) (entryLines (file, r)) := by
  have hvoid : Shows (coloured colours .yellow voidLine) voidLine := plain_voidLine.shows_self.coloured colours .yellow
  have hsummary : Shows (bold colours r.summaryLine) r.summaryLine := (plain_summaryLine r).shows_self.bold colours
  have hfindings : List.Forall₂ Shows (r.findings.map (humanLine colours)) (r.findings.map Finding.line) := by
    rw [List.forall₂_map_left_iff, List.forall₂_map_right_iff, List.forall₂_same]
    exact fun f _ => shows_humanLine colours f
  refine .cons ((Text.shows_self h).bold colours) ?_
  rw [List.forall₂_map_left_iff, List.forall₂_map_right_iff]
  refine List.Forall₂.imp (fun _ _ => shows_indented) ?_
  refine List.rel_append (List.rel_append hfindings ?_) (.cons hsummary .nil)
  split
  · exact .cons hvoid .nil
  · exact .nil

theorem shows_renderHuman {reports : List (String × Report)} (h : ∀ e ∈ reports, escape ∉ e.1.toList)
    (colours : Bool) : Shows (renderHuman colours reports) (renderHuman false reports) := by
  refine Shows.joinLines ?_
  induction reports with
  | nil => exact .nil
  | cons e es ih =>
    have hrest := ih fun x hx => h x (List.mem_cons_of_mem e hx)
    exact List.rel_append (forall₂_shows_humanLines (h e List.mem_cons_self) colours e.2) hrest

/-- Where the names of files are plain, what is written for a terminal without colours is, for each file, its name and
under it the lines of the report's text, two columns further in. In colours, these lines are the same but for styles,
of which there are some if there is a report. -/
theorem renderHuman_unstyled {reports : List (String × Report)} (h : ∀ e ∈ reports, Plain e.1) :
    let output (colours : Bool) := OutputMode.human.render colours reports
    output false = String.join (reports.map fun e =>
      e.1 ++ "\n" ++ String.join ((splitLines e.2.renderText).map fun l => "  " ++ l ++ "\n")) ∧
    splitLines (output false) = reports.flatMap (fun e => e.1 :: (splitLines e.2.renderText).map ("  " ++ ·)) ∧
    unstyled (output true) = output false ∧
    (output true = output false ↔ reports = []) := by
  intro output
  have hescape : ∀ e ∈ reports, escape ∉ e.1.toList := fun e he => (h e he).not_mem (by decide)
  have hentry : ∀ e : String × Report, entryLines e = e.1 :: (splitLines e.2.renderText).map ("  " ++ ·) := by
    intro e
    rw [splitLines_renderText]
    rfl
  have houtput : output false = joinLines (reports.flatMap entryLines) := renderHuman_false reports
  have hplain : ∀ l ∈ reports.flatMap entryLines, Plain l := (forall_mem_entryLines_iff fun _ hl => hl).mpr h
  refine ⟨?_, ?_, (shows_renderHuman hescape true).unstyled_eq, ?_⟩
  · rw [houtput, joinLines_flatMap]
    refine congrArg String.join (List.map_congr_left fun e _ => ?_)
    rw [hentry, joinLines, List.map_cons, String.join_cons, List.map_map]
    rfl
  · rw [houtput, splitLines_joinLines hplain]
    exact List.flatMap_congr fun e _ => hentry e
  · constructor
    · intro hsame
      by_contra hne
      obtain ⟨e, es, rfl⟩ := List.exists_cons_of_ne_nil hne
      -- The name of the first file is in bold.
      have hmem : escape ∈ (output true).toList := by
        simp [output, OutputMode.render, renderHuman, joinLines, humanLines, bold, styled, escape, String.join_cons]
      rw [hsame, houtput] at hmem
      exact absurd (eq_newline_of_mem_joinLines hplain hmem (by decide)) (by decide)
    · rintro rfl
      rfl

/-- A finding that has a style of its own to show, and a report without rules. -/
theorem renderHuman_unstyled_pair :
    let f : Finding := ⟨"r\n", .warning, "\x1b[0mfine", [.key "\x1b[1m"], ⟨1, 2, 1, 3⟩⟩
    let reports := [("a", aggregate [f] .empty 1), ("b", aggregate [] .empty 0)]
    (∀ e ∈ reports, Plain e.1) ∧
      unstyled (OutputMode.human.render true reports) = OutputMode.human.render false reports ∧
      OutputMode.human.render true reports ≠ OutputMode.human.render false reports := by
  intro f reports
  have hnames : ∀ e ∈ reports, Plain e.1 := by
    simp only [reports, List.forall_mem_cons]
    decide
  obtain ⟨-, -, hunstyled, hsame⟩ := renderHuman_unstyled hnames
  exact ⟨hnames, hunstyled, fun h => List.cons_ne_nil _ _ (hsame.mp h)⟩

end Report

end DocLint
