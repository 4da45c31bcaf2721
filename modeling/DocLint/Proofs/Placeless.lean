import DocLint.Proofs.Document.Value
import DocLint.Proofs.Layout

/-!
# Proofs: linting without places

The document of a value has no places, so its findings are all reported at one place and in another order. Apart from
order and places its report is that of the document read from the text: each finding of each rule is kept in both,
since no two findings of a rule share a path.
-/

namespace DocLint

open DocLint.Text

/-- What a finding says, apart from its span. -/
def Finding.content (f : Finding) : String × Severity × String × Path :=
  (f.rule, f.severity, f.message, f.path)

theorem Finding.content_spanless (f : Finding) : f.spanless.content = f.content := rfl

/-- Overriding severities and erasing spans do not get into each other's way. -/
theorem Overrides.apply_spanless (o : Overrides) (f : Finding) : o.apply f.spanless = (o.apply f).spanless := by
  rw [o.apply_eq, o.apply_eq]
  rfl

namespace Report

/-- Where no finding is repeated, a report tells what the overridden findings tell. -/
theorem content_aggregate {fs : List Finding} {o : Overrides} (h : (fs.map o.apply).Nodup) (n : Nat) :
    ((aggregate fs o n).findings.map Finding.content).Perm ((fs.map o.apply).map Finding.content) := by
  rw [findings_aggregate h]
  exact (Finding.sort_perm _).map _

/-- The numbers of a report depend on what its findings say only. -/
theorem count_of_content {fs gs : List Finding} (h : (fs.map Finding.content).Perm (gs.map Finding.content))
    (s : Severity) : count s fs = count s gs := by
  have hcontent : ∀ hs : List Finding, count s hs = (hs.map Finding.content).countP fun c => c.2.1 = s := by
    intro hs
    rw [count, List.countP_map]
    rfl
  rw [hcontent, hcontent]
  exact h.countP_eq _

end Report

section Policy

variable {entries : List PolicyEntry} {p : Profile} {tree : Node}

theorem nodup_applied (hp : Profile.ofPolicy entries = .ok p) (hkeys : (Document.ofTree tree).root.Unrepeated)
    (o : Overrides) : ((p.found (Document.ofTree tree).root).map o.apply).Nodup := by
  rw [funext o.apply_eq]
  exact nodup_overridden o (nodup_found hp hkeys)

/-- Linting two documents that differ in spans only tells the same, though not in the same order. -/
theorem lint_content {tree' : Node} (hp : Profile.ofPolicy entries = .ok p)
    (hkeys : (Document.ofTree tree).root.Unrepeated)
    (hsame : (Document.ofTree tree').root = (Document.ofTree tree).root.spanless) (o : Overrides) :
    ((Report.aggregate (p.found (Document.ofTree tree).root) o p.size).findings.map Finding.content).Perm
      ((Report.aggregate (p.found (Document.ofTree tree').root) o p.size).findings.map Finding.content) := by
  have hkeys' : (Document.ofTree tree').root.Unrepeated := by
    rw [hsame]
    exact Node.unrepeated_spanless.mpr hkeys
  have hfound : ((p.found (Document.ofTree tree').root).map o.apply).map Finding.content =
      ((p.found (Document.ofTree tree).root).map o.apply).map Finding.content := by
    rw [hsame, found_spanless hp, List.map_map, List.map_map, List.map_map]
    refine List.map_congr_left fun f _ => ?_
    show (o.apply f.spanless).content = (o.apply f).content
    rw [o.apply_spanless, Finding.content_spanless]
  have hcontent := Report.content_aggregate (nodup_applied hp hkeys o) p.size
  have hcontent' := Report.content_aggregate (nodup_applied hp hkeys' o) p.size
  rw [hfound] at hcontent'
  exact hcontent.trans hcontent'.symm

end Policy

/-- Where no mapping repeats a key, the document of the value of a text is the one read from the text, all but for its
spans. Linting the two with the rules of any policy tells the same of the same paths, as often, with the same numbers
and the same verdict. -/
theorem lint_ignores_places {source : String} {d : Document} {v : Json.Value} (hd : Document.read source = .ok d)
    (hkeys : d.root.Unrepeated) (hv : Json.Value.read? source.toList = some v) :
    (Document.ofValue v).root = d.root.spanless ∧
    ∀ entries p, Profile.ofPolicy entries = .ok p → ∀ o mode mode', ∃ report report',
      lintWith undisturbed mode p o d = some report ∧
      lintWith undisturbed mode' p o (Document.ofValue v) = some report' ∧
      (report.findings.map Finding.content).Perm (report'.findings.map Finding.content) ∧
      report.errors = report'.errors ∧ report.warnings = report'.warnings ∧ report.infos = report'.infos ∧
      report.passed = report'.passed ∧ report.rulesEvaluated = report'.rulesEvaluated := by
  obtain rfl : d.root.toValue = v := Option.some.inj ((read_value hd).symm.trans hv)
  have hsame := ofValue_of_read hd hkeys
  have hkeys' : (Document.ofValue d.root.toValue).root.Unrepeated := by
    rw [hsame]
    exact Node.unrepeated_spanless.mpr hkeys
  refine ⟨hsame, fun entries p hp o mode mode' => ?_⟩
  obtain ⟨-, tree, -, -, rfl⟩ := exists_tree_of_read hd
  have hcontent := lint_content hp hkeys hsame o
  have hcount := Report.count_of_content hcontent
  refine ⟨_, _, lintWith_eq_found hp hkeys o mode, lintWith_eq_found hp hkeys' o mode', hcontent, hcount .error,
    hcount .warning, hcount .info, ?_, rfl⟩
  exact congrArg (· == 0) (hcount .error)

/-- Two entries in the order of the text, which is not that of their messages. -/
theorem lint_ignores_places_entries :
    let a := String.ofList ['a']
    let b := String.ofList ['b']
    let entry : PolicyEntry := ⟨a, String.ofList ['*'], .forbidden, none, none⟩
    let source := String.ofList ['\x7b', '"', 'b', '"', ':', '1', ',', '\n', '"', 'a', '"', ':', '2', '\x7d']
    let d : Document :=
      ⟨.mapping [] ⟨1, 1, 2, 6⟩ [(b, .scalar [.key b] ⟨1, 2, 1, 6⟩ (.number (.integer 1))),
        (a, .scalar [.key a] ⟨2, 1, 2, 5⟩ (.number (.integer 2)))]⟩
    let v : Json.Value := .object [(b, .number (.integer 1)), (a, .number (.integer 2))]
    Document.read source = .ok d ∧ Json.Value.read? source.toList = some v ∧
      (Document.ofValue v).root = d.root.spanless ∧
      ∃ p report report', Profile.ofPolicy [entry] = .ok p ∧
        lintWith undisturbed .sequential p .empty d = some report ∧
        lintWith undisturbed .sequential p .empty (Document.ofValue v) = some report' ∧
        (report.findings.map Finding.content).Perm (report'.findings.map Finding.content) ∧
        report.errors = report'.errors := by
  intro a b entry source d v
  let c : Check := ⟨a, .error, none, ⟨String.ofList ['*'], [.any]⟩, .forbidden⟩
  have hd : Document.read source = .ok d := by
    simp only [Document.read, source, String.toList_ofList]
    rfl
  have hv : Json.Value.read? source.toList = some v := read_value hd
  have hkeys : d.root.Unrepeated := by
    simp [d, a, b, Node.Unrepeated, Node.preorder, Node.preorderEntries, Node.keys]
  have hcompile : entry.compile = .ok c := by
    simp only [PolicyEntry.compile, entry, Selector.read, Text.trim, String.toList_ofList]
    rfl
  have hp : Profile.ofPolicy [entry] = .ok ⟨[c.toRule]⟩ := by
    simp only [Profile.ofPolicy, Profile.extend, hcompile]
    simp only [Profile.register, Text.isBlankText, c, Check.toRule, a, String.toList_ofList]
    rfl
  obtain ⟨hsame, hlint⟩ := lint_ignores_places hd hkeys hv
  obtain ⟨report, report', hreport, hreport', hcontent, herrors, -⟩ := hlint [entry] _ hp .empty .sequential .sequential
  exact ⟨hd, hv, hsame, ⟨[c.toRule]⟩, report, report', hp, hreport, hreport', hcontent, herrors⟩

end DocLint
