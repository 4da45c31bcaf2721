import DocLint.Proofs.Report
import DocLint.Proofs.Text.Line
import DocLint.Proofs.Text.Natural

/-!
# Proofs: a report is told line by line

Every text in a line comes from a document, a policy or the command line, and each of them is put on one line
(`one_line`) before it stands there. So every line is plain, and the text of a report falls apart into the
lines it was made of.

A line tells at its end what it is: that of a finding ends in a bracket, the warning about an empty profile in a
parenthesis, the counts in a letter. So whatever a finding says, its line passes for none of the others. At its start
a line tells its severity, and the counts start with a digit.
-/

namespace DocLint

open DocLint.Text

/-! ## The line of a finding -/

theorem Severity.plain_text (s : Severity) : Plain s.text := by
  cases s <;> decide

theorem Finding.plain_line (f : Finding) : Plain f.line := by
  have hcolon : Plain ": " := by decide
  have hrule : Plain " (" := by decide
  have hplace : Plain ") at " := by decide
  have hspan : Plain " [" := by decide
  have hcolumn : Plain ":" := by decide
  have hend : Plain "]" := by decide
  simp only [line, lineWith, plain_append_iff, plain_oneLine, plain_ofNat, Severity.plain_text, hcolon, hrule, hplace,
    hspan, hcolumn, hend, and_self]

example : (Finding.mk "r" .info "fine\nerror: forged" [.key "a\nb"] ⟨1, 2, 3, 4⟩).line =
    "info: fine\\nerror: forged (r) at $[\"a\\nb\"] [1:2]" := by decide +kernel

/-- A severity as it stands at the start of a line. -/
def Severity.label (s : Severity) : String :=
  s.text ++ ": "

theorem Finding.exists_line_eq (f : Finding) : ∃ t, f.line = f.severity.label ++ t ++ "]" := by
  refine ⟨oneLine f.message ++ " (" ++ oneLine f.rule ++ ") at " ++ oneLine f.path.render ++ " [" ++
    ofNat f.span.startLine ++ ":" ++ ofNat f.span.startColumn, ?_⟩
  simp only [line, lineWith, Severity.label, String.append_assoc]

theorem Finding.getLast?_line (f : Finding) : f.line.toList.getLast? = some ']' := by
  obtain ⟨t, ht⟩ := f.exists_line_eq
  rw [ht, String.toList_append, List.getLast?_append]
  rfl

theorem Severity.label_prefix_iff (s t : Severity) (r : List Char) :
    s.label.toList <+: t.label.toList ++ r ↔ t = s := by
  cases s <;> cases t <;> simp [label, text]

/-- The line of a finding starts with the severity of the finding and with no other. -/
theorem Finding.startsWith_line (f : Finding) (s : Severity) :
    f.line.startsWith s.label = decide (f.severity = s) := by
  obtain ⟨t, ht⟩ := f.exists_line_eq
  rw [Bool.eq_iff_iff, String.startsWith_string_iff, ht, String.toList_append, String.toList_append, List.append_assoc,
    Severity.label_prefix_iff, decide_eq_true_iff]

theorem Severity.exists_label_eq (s : Severity) : ∃ c cs, s.label.toList = c :: cs ∧ isDigit c = false := by
  cases s
  · exact ⟨'e', _, rfl, rfl⟩
  · exact ⟨'w', _, rfl, rfl⟩
  · exact ⟨'i', _, rfl, rfl⟩

namespace Report

/-! ## The other lines -/

theorem plain_summaryLine (r : Report) : Plain r.summaryLine := by
  have herrors : Plain " error(s), " := by decide
  have hwarnings : Plain " warning(s), " := by decide
  have hinfos : Plain " info" := by decide
  simp only [summaryLine, plain_append_iff, plain_ofNat, herrors, hwarnings, hinfos, and_self]

theorem plain_voidLine : Plain voidLine := by
  decide

theorem getLast?_summaryLine (r : Report) : r.summaryLine.toList.getLast? = some 'o' := by
  rw [summaryLine, String.toList_append, List.getLast?_append]
  rfl

theorem getLast?_voidLine : voidLine.toList.getLast? = some ')' := by
  decide

/-- The counts start with a digit and a severity does not. -/
theorem startsWith_summaryLine (r : Report) (s : Severity) : r.summaryLine.startsWith s.label = false := by
  obtain ⟨c, cs, hc, hletter⟩ := s.exists_label_eq
  obtain ⟨d, ds, hd⟩ := List.exists_cons_of_ne_nil (decimal_ne_nil r.errors)
  have hdigit : isDigit d = true := isDigit_of_mem_decimal (n := r.errors) (hd ▸ List.mem_cons_self)
  have hsummary : r.summaryLine.toList.head? = some d := by
    simp [summaryLine, ofNat, hd]
  rw [← Bool.not_eq_true, String.startsWith_string_iff, hc]
  rintro ⟨t, ht⟩
  rw [← ht, List.cons_append, List.head?_cons, Option.some.injEq] at hsummary
  rw [hsummary, hdigit] at hletter
  cases hletter

theorem startsWith_voidLine (s : Severity) : voidLine.startsWith s.label = decide (s = .warning) := by
  rw [Bool.eq_iff_iff, String.startsWith_string_iff, decide_eq_true_iff]
  cases s <;> decide

theorem ne_of_getLast {l m : String} {c d : Char} (hl : l.toList.getLast? = some c)
    (hm : m.toList.getLast? = some d) (h : c ≠ d) : l ≠ m := by
  rintro rfl
  rw [hl] at hm
  exact h (Option.some.inj hm)

/-- A finding says nothing that passes for one of the other lines. -/
theorem line_ne_voidLine (f : Finding) : f.line ≠ voidLine :=
  ne_of_getLast f.getLast?_line getLast?_voidLine (by decide)

theorem line_ne_summaryLine (f : Finding) (r : Report) : f.line ≠ r.summaryLine :=
  ne_of_getLast f.getLast?_line r.getLast?_summaryLine (by decide)

theorem summaryLine_ne_voidLine (r : Report) : r.summaryLine ≠ voidLine :=
  ne_of_getLast r.getLast?_summaryLine getLast?_voidLine (by decide)

/-! ## The lines of a report -/

theorem lines_eq (r : Report) :
    r.lines = r.findings.map Finding.line ++ List.replicate (if r.rulesEvaluated = 0 then 1 else 0) voidLine ++
      [r.summaryLine] := by
  by_cases hzero : r.rulesEvaluated = 0
  · have hvoid : r.isVoid = true := beq_iff_eq.mpr hzero
    rw [lines, if_pos hvoid, if_pos hzero, List.replicate_one]
  · have hvoid : ¬ r.isVoid = true := fun h => hzero (beq_iff_eq.mp h)
    rw [lines, if_neg hvoid, if_neg hzero, List.replicate_zero]

theorem plain_of_mem_lines {r : Report} {l : String} (hl : l ∈ r.lines) : Plain l := by
  rw [lines_eq, List.mem_append, List.mem_append, List.mem_singleton, List.mem_replicate] at hl
  rcases hl with (hl | ⟨-, rfl⟩) | rfl
  · obtain ⟨f, -, rfl⟩ := List.mem_map.mp hl
    exact f.plain_line
  · exact plain_voidLine
  · exact plain_summaryLine r

theorem splitLines_renderText (r : Report) : splitLines r.renderText = r.lines :=
  splitLines_joinLines fun _ hl => plain_of_mem_lines hl

theorem plain_of_mem_fileLines {file : String} {r : Report} {l : String} (hl : l ∈ fileLines file r) : Plain l := by
  obtain ⟨m, hm, rfl⟩ := List.mem_map.mp hl
  have hcolon : Plain ": " := by decide
  rw [plain_append_iff, plain_append_iff]
  exact ⟨⟨plain_oneLine file, hcolon⟩, plain_of_mem_lines hm⟩

/-- The warning about an empty profile is in the text of a report exactly if no rule was evaluated. -/
theorem voidLine_mem_lines_iff {r : Report} : voidLine ∈ r.lines ↔ r.rulesEvaluated = 0 := by
  rw [lines_eq, List.mem_append, List.mem_append, List.mem_singleton, List.mem_replicate]
  constructor
  · rintro ((h | ⟨h, -⟩) | h)
    · obtain ⟨f, -, hf⟩ := List.mem_map.mp h
      exact absurd hf (line_ne_voidLine f)
    · by_contra hpos
      exact h (if_neg hpos)
    · exact absurd h.symm (summaryLine_ne_voidLine r)
  · intro h
    rw [if_pos h]
    exact .inl (.inr ⟨Nat.one_ne_zero, rfl⟩)

/-- How many lines start with a severity: those of its findings, and the warning about an empty profile. -/
theorem countP_label_lines (r : Report) (s : Severity) :
    r.lines.countP (·.startsWith s.label) =
      count s r.findings + if r.rulesEvaluated = 0 ∧ s = .warning then 1 else 0 := by
  have hfindings : (r.findings.map Finding.line).countP (·.startsWith s.label) = count s r.findings := by
    rw [List.countP_map]
    exact List.countP_congr fun f _ => by rw [Function.comp, Finding.startsWith_line]
  rw [lines_eq, List.countP_append, List.countP_append, hfindings, List.countP_replicate, List.countP_singleton,
    startsWith_summaryLine, startsWith_voidLine]
  by_cases hzero : r.rulesEvaluated = 0
  · simp [hzero]
  · simp [hzero]

/-- Putting the file in front of each line of a text is what cutting the text into lines first comes to. -/
theorem renderFileText_eq (file : String) (r : Report) :
    renderFileText file r = String.join ((splitLines r.renderText).map fun l => oneLine file ++ ": " ++ l ++ "\n") := by
  rw [splitLines_renderText, renderFileText, joinLines, fileLines, List.map_map]
  rfl

/-- The text of a report is told line by line, whatever the findings say: a line for each finding, in order, then the
warning if no rule was evaluated, then the counts, each ended by a line feed. There is no other control character in
it, and cutting it at its line breaks gives these lines. As many lines start with a severity as the report counts, the
warning about an empty profile included. No finding has the line of that warning or of any counts, so the text of a
report tells whether a rule was evaluated. With a file in front, the same lines follow each other, and what is put in
front of each is plain, too. -/
theorem renderText_told_by_lines (fs : List Finding) (o : Overrides) (n : Nat) :
    let report := aggregate fs o n
    let void := if report.rulesEvaluated = 0 then 1 else 0
    let told := report.findings.map Finding.line ++ List.replicate void voidLine ++ [report.summaryLine]
    let starting (label : String) := (splitLines report.renderText).countP (·.startsWith label)
    report.renderText = String.join (told.map (· ++ "\n")) ∧
    splitLines report.renderText = told ∧
    (∀ c ∈ report.renderText.toList, isControl c = true → c = '\n') ∧
    report.renderText.toList.count '\n' = report.findings.length + void + 1 ∧
    starting "error: " = report.errors ∧
    starting "info: " = report.infos ∧
    starting "warning: " = report.warnings + void ∧
    (∀ f : Finding, f.line ≠ voidLine ∧ ∀ r : Report, f.line ≠ r.summaryLine) ∧
    (∀ gs p m, (aggregate gs p m).renderText = report.renderText →
      ((aggregate gs p m).rulesEvaluated = 0 ↔ report.rulesEvaluated = 0)) ∧
    ∀ file, Plain (oneLine file ++ ": ") ∧
      renderFileText file report = String.join (told.map fun l => oneLine file ++ ": " ++ l ++ "\n") ∧
      splitLines (renderFileText file report) = told.map (oneLine file ++ ": " ++ ·) := by
  intro report void told starting
  have htold : report.lines = told := lines_eq report
  have hsplit : splitLines report.renderText = told := (splitLines_renderText report).trans htold
  have hplain : ∀ l ∈ report.lines, Plain l := fun _ hl => plain_of_mem_lines hl
  have hstarting (s : Severity) (label : String) (hlabel : s.label = label) : starting label =
      count s report.findings + if report.rulesEvaluated = 0 ∧ s = .warning then 1 else 0 := by
    simp only [starting]
    rw [splitLines_renderText, ← hlabel, countP_label_lines]
  refine ⟨?_, hsplit, ?_, ?_, ?_, ?_, ?_, ?_, ?_, ?_⟩
  · rw [renderText, joinLines, htold]
  · intro c hc hcontrol
    exact eq_newline_of_mem_joinLines hplain hc hcontrol
  · rw [renderText, count_newline_joinLines hplain, htold]
    simp only [told, List.length_append, List.length_map, List.length_replicate, List.length_singleton]
  · have herrors : starting "error: " = count .error report.findings := by
      simpa using hstarting .error "error: " rfl
    exact herrors
  · have hinfos : starting "info: " = count .info report.findings := by
      simpa using hstarting .info "info: " rfl
    exact hinfos
  · have hwarnings : starting "warning: " = count .warning report.findings + void := by
      simpa [void] using hstarting .warning "warning: " rfl
    exact hwarnings
  · intro f
    exact ⟨line_ne_voidLine f, line_ne_summaryLine f⟩
  · intro gs p m htext
    have hlines : (aggregate gs p m).lines = report.lines := by
      rw [← splitLines_renderText, ← splitLines_renderText, htext]
    -- The warning tells whether a rule was evaluated, and equal texts have equal lines.
    rw [← voidLine_mem_lines_iff, ← voidLine_mem_lines_iff, hlines]
  · intro file
    have hcolon : Plain ": " := by decide
    refine ⟨plain_append_iff.mpr ⟨plain_oneLine file, hcolon⟩, ?_, ?_⟩
    · rw [renderFileText_eq, hsplit]
    · rw [renderFileText, splitLines_joinLines fun _ hl => plain_of_mem_fileLines hl, fileLines, htold]

end Report

end DocLint
