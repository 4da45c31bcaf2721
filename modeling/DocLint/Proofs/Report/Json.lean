import DocLint.Output
import DocLint.Proofs.Document.Pretty
import DocLint.Proofs.Document.Value
import DocLint.Proofs.Path

/-!
# Proofs: reports are read back from their JSON

The JSON of some reports (`compose_batch_json`) is read as a document, and the reports are read from the document,
field by field under the names that they are written with. Two readers carry this: one for the child under a key and
one for the items of a sequence. What they read from a node depends on the value alone that the node was read from,
not on its place.

The segments of a path are told apart by their type, a string for a key and a number for an index, so that the key
`0` and the index `0` are not taken for each other. Since the reports can be read back, no two lists of reports have
the same JSON.
-/

namespace DocLint

open DocLint.Text DocLint.Json

/-! ## Reading from a document -/

namespace Node

variable {α : Type}

/-- The text of a node. -/
def text? : Node → Option String
  | scalar _ _ (.string s) => some s
  | _ => none

/-- The natural number of a node. -/
def natural? : Node → Option Nat
  | scalar _ _ (.number (.integer (.ofNat n))) => some n
  | _ => none

/-- The truth value of a node. -/
def boolean? : Node → Option Bool
  | scalar _ _ (.boolean b) => some b
  | _ => none

/-- What is read from the child under a key. -/
def field? (key : String) (read : Node → Option α) (n : Node) : Option α :=
  match n.child? (.key key) with
  | .ok c => read c
  | .error _ => none

/-- What is read from each item of a sequence. -/
def items? (read : Node → Option α) : Node → Option (List α)
  | sequence _ _ items => items.mapM read
  | _ => none

end Node

/-- A segment, told by its type. -/
def Segment.ofNode? (n : Node) : Option Segment :=
  (n.text?.map Segment.key).or (n.natural?.map Segment.index)

/-- A severity, by its name. -/
def Severity.ofNode? (n : Node) : Option Severity := do
  (Severity.read (← n.text?)).toOption

/-- A span, by its fields. -/
def Span.ofNode? (n : Node) : Option Span := do
  let startLine ← n.field? "startLine" Node.natural?
  let startColumn ← n.field? "startColumn" Node.natural?
  let endLine ← n.field? "endLine" Node.natural?
  let endColumn ← n.field? "endColumn" Node.natural?
  return ⟨startLine, startColumn, endLine, endColumn⟩

/-- A finding, by its fields. -/
def Finding.ofNode? (n : Node) : Option Finding := do
  let rule ← n.field? "ruleName" Node.text?
  let severity ← n.field? "severity" Severity.ofNode?
  let message ← n.field? "message" Node.text?
  let path ← n.field? "path" (Node.items? Segment.ofNode?)
  let span ← n.field? "position" Span.ofNode?
  return ⟨rule, severity, message, path, span⟩

/-- The name of a file and its report, by their fields. -/
def Report.ofNode? (n : Node) : Option (String × Report) := do
  let file ← n.field? "file" Node.text?
  let findings ← n.field? "diagnostics" (Node.items? Finding.ofNode?)
  let errors ← n.field? "errorCount" Node.natural?
  let warnings ← n.field? "warningCount" Node.natural?
  let infos ← n.field? "infoCount" Node.natural?
  let passed ← n.field? "passed" Node.boolean?
  let rulesEvaluated ← n.field? "rulesEvaluated" Node.natural?
  return (file, ⟨findings, errors, warnings, infos, passed, rulesEvaluated⟩)

/-! ## The readers -/

section Readers

variable {α : Type}

/-- From every node that differs from the tree of the value in paths and spans only, `a` is read. -/
def Reads (read : Node → Option α) (v : Value) (a : α) : Prop :=
  ∀ n : Node, n.bare = Node.ofValue v → read n = some a

theorem Node.exists_eq_scalar {n : Node} {v : Scalar} (h : n.bare = .scalar Path.root Span.start v) :
    ∃ p s, n = .scalar p s v := by
  cases n with
  | scalar p s w =>
    cases h
    exact ⟨p, s, rfl⟩
  | sequence p s items => cases h
  | mapping p s entries => cases h

theorem reads_text (s : String) : Reads Node.text? (.string s) s := by
  intro n hn
  obtain ⟨p, sp, rfl⟩ := Node.exists_eq_scalar hn
  rfl

theorem reads_natural (i : Nat) : Reads Node.natural? (.nat i) i := by
  intro n hn
  obtain ⟨p, sp, rfl⟩ := Node.exists_eq_scalar hn
  rfl

theorem reads_boolean (b : Bool) : Reads Node.boolean? (.boolean b) b := by
  intro n hn
  obtain ⟨p, sp, rfl⟩ := Node.exists_eq_scalar hn
  rfl

/-- The child under a key is read if the value has an entry under the key that can be read. -/
theorem reads_field {read : Node → Option α} {a : α} {entries : List (String × Value)} {e : String × Value}
    (key : String) (hfind : entries.find? (·.1 = key) = some e) (h : Reads read e.2 a) :
    Reads (Node.field? key read) (.object entries) a := by
  intro n hn
  rw [Node.ofValue, Node.entriesOfValues_eq_map] at hn
  cases n with
  | scalar p s v => cases hn
  | sequence p s items => cases hn
  | mapping p s children =>
    rw [Node.bare, Node.bareEntries_eq_map, Node.mapping.injEq] at hn
    -- The node and the value have the same keys in the same order, so both find the entry at the same place.
    have hboth := congrArg (List.find? (·.1 = key)) hn.2.2
    rw [List.find?_map, List.find?_map] at hboth
    have hentry : entries.find? ((fun e => decide (e.1 = key)) ∘ fun e => (e.1, Node.ofValue e.2)) = some e := hfind
    rw [hentry, Option.map_some, Option.map_eq_some_iff] at hboth
    obtain ⟨c, hc, hpair⟩ := hboth
    have hfound : children.find? (·.1 = key) = some c := hc
    have hchild : (Node.mapping p s children).child? (.key key) = .ok c.2 := by
      rw [Node.child?, Node.find?, hfound]
      rfl
    rw [Node.field?, hchild]
    exact h c.2 (Prod.mk.inj hpair).2

theorem mapM_eq_some_of_reads {read : Node → Option α} {write : α → Value} {as : List α}
    (h : ∀ a ∈ as, Reads read (write a) a) {ns : List Node}
    (hns : ns.map Node.bare = (as.map write).map Node.ofValue) : ns.mapM read = some as := by
  induction as generalizing ns with
  | nil =>
    rw [List.map_eq_nil_iff.mp hns]
    rfl
  | cons a as ih =>
    obtain ⟨n, ns, rfl, hn, hrest⟩ := List.map_eq_cons_iff.mp hns
    have hhead : read n = some a := h a List.mem_cons_self n hn
    have htail : ns.mapM read = some as := ih (fun b hb => h b (List.mem_cons_of_mem a hb)) hrest
    rw [List.mapM_cons, hhead, htail]
    rfl

/-- Items that are written one by one are read one by one. -/
theorem reads_items {read : Node → Option α} {write : α → Value} {as : List α} (h : ∀ a ∈ as, Reads read (write a) a) :
    Reads (Node.items? read) (.array (as.map write)) as := by
  intro n hn
  rw [Node.ofValue, Node.itemsOfValues_eq_map] at hn
  cases n with
  | scalar p s v => cases hn
  | mapping p s entries => cases hn
  | sequence p s items =>
    rw [Node.bare, Node.bareItems_eq_map, Node.sequence.injEq] at hn
    exact mapM_eq_some_of_reads h hn.2.2

end Readers

/-! ## Each part of a report is read back -/

theorem reads_segment (s : Segment) : Reads Segment.ofNode? s.toValue s := by
  intro n hn
  cases s with
  | key k =>
    have hkey : n.text? = some k := reads_text k n hn
    rw [Segment.ofNode?, hkey]
    rfl
  | index i =>
    have hindex : n.natural? = some i := reads_natural i n hn
    have htext : n.text? = none := by
      obtain ⟨p, s, rfl⟩ := Node.exists_eq_scalar hn
      rfl
    rw [Segment.ofNode?, htext, hindex]
    rfl

theorem reads_severity (s : Severity) : Reads Severity.ofNode? (.string s.text) s := by
  intro n hn
  have htext : n.text? = some s.text := reads_text s.text n hn
  have hread : Severity.read s.text = .ok s := by cases s <;> decide
  rw [Severity.ofNode?, htext]
  simp [hread, Except.toOption]

theorem reads_span (s : Span) : Reads Span.ofNode? s.toValue s := by
  intro n hn
  have hstartLine := reads_field "startLine" rfl (reads_natural s.startLine) n hn
  have hstartColumn := reads_field "startColumn" rfl (reads_natural s.startColumn) n hn
  have hendLine := reads_field "endLine" rfl (reads_natural s.endLine) n hn
  have hendColumn := reads_field "endColumn" rfl (reads_natural s.endColumn) n hn
  simp [Span.ofNode?, hstartLine, hstartColumn, hendLine, hendColumn]

theorem reads_finding (f : Finding) : Reads Finding.ofNode? f.toValue f := by
  intro n hn
  have hrule := reads_field "ruleName" rfl (reads_text f.rule) n hn
  have hseverity := reads_field "severity" rfl (reads_severity f.severity) n hn
  have hmessage := reads_field "message" rfl (reads_text f.message) n hn
  have hpath := reads_field "path" rfl (reads_items fun s (_ : s ∈ f.path) => reads_segment s) n hn
  have hspan := reads_field "position" rfl (reads_span f.span) n hn
  simp [Finding.ofNode?, hrule, hseverity, hmessage, hpath, hspan]

theorem reads_report (e : String × Report) : Reads Report.ofNode? (e.2.toValue e.1) e := by
  obtain ⟨file, r⟩ := e
  intro n hn
  have hfile := reads_field "file" rfl (reads_text file) n hn
  have hfindings :=
    reads_field "diagnostics" rfl (reads_items fun f (_ : f ∈ r.findings) => reads_finding f) n hn
  have herrors := reads_field "errorCount" rfl (reads_natural r.errors) n hn
  have hwarnings := reads_field "warningCount" rfl (reads_natural r.warnings) n hn
  have hinfos := reads_field "infoCount" rfl (reads_natural r.infos) n hn
  have hpassed := reads_field "passed" rfl (reads_boolean r.passed) n hn
  have hrules := reads_field "rulesEvaluated" rfl (reads_natural r.rulesEvaluated) n hn
  simp [Report.ofNode?, hfile, hfindings, herrors, hwarnings, hinfos, hpassed, hrules]

theorem reads_batch (reports : List (String × Report)) :
    Reads (Node.items? Report.ofNode?) (Report.batchValue reports) reports :=
  reads_items fun e _ => reads_report e

/-! ## Numbers that fit a word -/

/-- The lines and columns of the span fit 64-bit words. -/
structure Span.Fits (s : Span) : Prop where
  startLine : s.startLine < wordLimit
  startColumn : s.startColumn < wordLimit
  endLine : s.endLine < wordLimit
  endColumn : s.endColumn < wordLimit

/-- The numbers of the report and of its findings fit 64-bit words. -/
structure Report.Fits (r : Report) : Prop where
  paths : ∀ f ∈ r.findings, f.path.Fits
  spans : ∀ f ∈ r.findings, f.span.Fits
  errors : r.errors < wordLimit
  warnings : r.warnings < wordLimit
  infos : r.infos < wordLimit
  rulesEvaluated : r.rulesEvaluated < wordLimit

theorem integral_nat {n : Nat} (h : n < wordLimit) : (Value.nat n).Integral := by
  refine .integer ?_
  simp only [fitsWord, Bool.and_eq_true, decide_eq_true_eq]
  simp only [wordLimit] at h
  omega

theorem Segment.integral {s : Segment} (h : ∀ i, s = .index i → i < wordLimit) : s.toValue.Integral := by
  cases s with
  | key k => exact .string k
  | index i => exact integral_nat (h i rfl)

theorem Span.Fits.integral {s : Span} (h : s.Fits) : s.toValue.Integral := by
  refine .object ?_
  simp only [List.forall_mem_cons]
  exact ⟨integral_nat h.startLine, integral_nat h.startColumn, integral_nat h.endLine, integral_nat h.endColumn,
    by simp⟩

theorem Finding.integral {f : Finding} (hpath : f.path.Fits) (hspan : f.span.Fits) : f.toValue.Integral := by
  have hsegments : ∀ v ∈ f.path.map Segment.toValue, v.Integral := by
    intro v hv
    obtain ⟨s, hs, rfl⟩ := List.mem_map.mp hv
    exact Segment.integral fun i hi => hpath i (hi ▸ hs)
  refine .object ?_
  simp only [List.forall_mem_cons]
  exact ⟨.string _, .string _, .string _, .array hsegments, hspan.integral, by simp⟩

theorem Report.Fits.integral {r : Report} (h : r.Fits) (file : String) : (r.toValue file).Integral := by
  have hfindings : ∀ v ∈ r.findings.map Finding.toValue, v.Integral := by
    intro v hv
    obtain ⟨f, hf, rfl⟩ := List.mem_map.mp hv
    exact Finding.integral (h.paths f hf) (h.spans f hf)
  refine .object ?_
  simp only [List.forall_mem_cons]
  exact ⟨.string _, .array hfindings, integral_nat h.errors, integral_nat h.warnings, integral_nat h.infos,
    .boolean _, integral_nat h.rulesEvaluated, by simp⟩

/-! ## Whole runs -/

theorem exists_read_renderJson {reports : List (String × Report)} (h : ∀ e ∈ reports, e.2.Fits) :
    ∃ d, Document.read (Report.renderJson reports) = .ok d ∧
      d.root.bare = Node.ofValue (Report.batchValue reports) := by
  have hintegral : (Report.batchValue reports).Integral := by
    refine .array ?_
    intro v hv
    obtain ⟨e, he, rfl⟩ := List.mem_map.mp hv
    exact (h e he).integral e.1
  have htext : Report.renderJson reports =
      String.ofList ((Report.batchValue reports).prettyChars 0 ++ (Gap.line 0).chars) := by
    rw [← String.toList_inj]
    simp [Report.renderJson, Value.pretty, Gap.line, Value.newLine]
  rw [htext]
  exact exists_read_pretty hintegral (.line 0)

/-- The JSON of any reports whose numbers fit 64-bit words gives a document, and reading the document field by field
gives the files and their reports back, whatever the texts and the paths in them. So no other such reports have the same
JSON. -/
theorem Report.read_back_of_json (colours : Bool) (reports : List (String × Report)) (h : ∀ e ∈ reports, e.2.Fits) :
    (∃ d, Document.read (OutputMode.json.render colours reports) = .ok d ∧
      d.root.items? Report.ofNode? = some reports) ∧
    ∀ others : List (String × Report), (∀ e ∈ others, e.2.Fits) →
      OutputMode.json.render colours others = OutputMode.json.render colours reports → others = reports := by
  obtain ⟨d, hd, hbare⟩ := exists_read_renderJson h
  have hreports : d.root.items? Report.ofNode? = some reports := reads_batch reports d.root hbare
  refine ⟨⟨d, hd, hreports⟩, ?_⟩
  intro others hothers hsame
  obtain ⟨d', hd', hbare'⟩ := exists_read_renderJson hothers
  obtain rfl : d' = d := by
    have htext : Report.renderJson others = Report.renderJson reports := hsame
    rw [htext, hd] at hd'
    exact (Except.ok.inj hd').symm
  have hagain : d'.root.items? Report.ofNode? = some others := reads_batch others d'.root hbare'
  exact Option.some.inj (hagain.symm.trans hreports)

/-- A key and an index of the same text, and texts that have to be escaped. -/
theorem Report.read_back_of_json_key_and_index :
    let finding : Finding := ⟨"a\"b", .warning, "\n\x00\u2028", [.key "0", .index 0], ⟨1, 2, 3, 18446744073709551615⟩⟩
    let reports : List (String × Report) := [("x\\y", ⟨[finding], 0, 1, 0, true, 2⟩), ("", ⟨[], 0, 0, 0, true, 0⟩)]
    (∀ e ∈ reports, e.2.Fits) ∧
    ∃ d, Document.read (OutputMode.json.render false reports) = .ok d ∧
      d.root.items? Report.ofNode? = some reports := by
  intro finding reports
  have hword : 18446744073709551615 < wordLimit := by decide
  have hspan : finding.span.Fits := ⟨by decide, by decide, by decide, hword⟩
  have hpath : finding.path.Fits := by
    intro i hi
    obtain rfl : i = 0 := by simpa [finding] using hi
    decide
  have hfull : (Report.mk [finding] 0 1 0 true 2).Fits :=
    ⟨by simpa using hpath, by simpa using hspan, by decide, by decide, by decide, by decide⟩
  have hempty : (Report.mk [] 0 0 0 true 0).Fits := ⟨by simp, by simp, by decide, by decide, by decide, by decide⟩
  have hfits : ∀ e ∈ reports, e.2.Fits := by
    intro e he
    rcases List.mem_cons.mp he with rfl | he
    · exact hfull
    · rw [List.mem_singleton.mp he]
      exact hempty
  exact ⟨hfits, (Report.read_back_of_json false reports hfits).1⟩

end DocLint
