import DocLint.Proofs.Registration

/-!
# Proofs: rules do not disturb each other

Rules may do whatever they like. An undisturbed run reports just what runs of the single rules report,
taken together. A rule that breaks down has one finding about itself in place of its own ones (`run_rule`), and so
every finding of a report is at a path that the document has.
-/

namespace DocLint

/-! ## What one rule contributes -/

/-- The rule breaks down on the document: it reports a fault or crashes, or one of its findings is at a path that
the document does not have. -/
def Rule.Breaks (r : Rule) (d : Document) : Prop :=
  match r.evaluate d.root with
  | .findings fs => ∃ f ∈ fs, ∃ e, d.resolve f.path = .error e
  | .inapplicable _ => False
  | .failed _ => True
  | .crashed _ => True

/-- A rule contributes all it finds, nothing at all, or the finding that it broke down. -/
theorem Rule.run_cases (r : Rule) (d : Document) :
    (∃ fs, r.evaluate d.root = .findings fs ∧ (∀ f ∈ fs, ∃ n, d.resolve f.path = .ok n) ∧ r.run d = fs) ∨
      (∃ reason, r.evaluate d.root = .inapplicable reason ∧ r.run d = []) ∨
      (r.Breaks d ∧ ∃ message, r.run d = [brokenRule r.name message]) := by
  cases he : r.evaluate d.root with
  | findings fs =>
    cases hd : dangling? d fs with
    | none => exact .inl ⟨fs, rfl, dangling_eq_none_iff.mp hd, by simp [run, he, hd]⟩
    | some f =>
      have hpath := List.find?_some hd
      have hbreaks : r.Breaks d := by
        simp only [Breaks, he]
        refine ⟨f, List.mem_of_find?_eq_some hd, ?_⟩
        cases hf : d.resolve f.path with
        | ok n => simp [hf] at hpath
        | error e => exact ⟨e, rfl⟩
      exact .inr (.inr ⟨hbreaks, _, by simp only [run, he, hd]; rfl⟩)
  | inapplicable reason => exact .inr (.inl ⟨reason, rfl, by simp [run, he]⟩)
  | failed message => exact .inr (.inr ⟨by simp [Breaks, he], message, by simp [run, he]⟩)
  | crashed message => exact .inr (.inr ⟨by simp [Breaks, he], _, by simp only [run, he]; rfl⟩)

theorem Rule.not_breaks_of_resolves {r : Rule} {d : Document} {fs : List Finding}
    (he : r.evaluate d.root = .findings fs) (hfs : ∀ f ∈ fs, ∃ n, d.resolve f.path = .ok n) : ¬ r.Breaks d := by
  simp only [Breaks, he]
  rintro ⟨f, hf, e, hpath⟩
  obtain ⟨n, hn⟩ := hfs f hf
  rw [hpath] at hn
  cases hn

theorem Rule.run_of_breaks {r : Rule} {d : Document} (h : r.Breaks d) :
    ∃ message, r.run d = [brokenRule r.name message] := by
  rcases r.run_cases d with ⟨fs, he, hfs, -⟩ | ⟨reason, he, -⟩ | ⟨-, hrun⟩
  · exact absurd h (not_breaks_of_resolves he hfs)
  · simp [Breaks, he] at h
  · exact hrun

theorem Rule.run_of_inapplicable {r : Rule} {d : Document} {reason : String}
    (h : r.evaluate d.root = .inapplicable reason) : r.run d = [] := by
  simp [run, h]

theorem Rule.run_of_findings {r : Rule} {d : Document} {fs : List Finding} (he : r.evaluate d.root = .findings fs)
    (h : ¬ r.Breaks d) : r.run d = fs := by
  rcases r.run_cases d with ⟨gs, hgs, -, hrun⟩ | ⟨reason, hreason, -⟩ | ⟨hbreaks, -⟩
  · cases he.symm.trans hgs
    exact hrun
  · cases he.symm.trans hreason
  · exact absurd hbreaks h

/-- Whatever a rule contributes is at a path of the document. -/
theorem Rule.resolve_of_mem_run (r : Rule) {d : Document} {f : Finding} (hf : f ∈ r.run d) :
    ∃ n, d.resolve f.path = .ok n := by
  rcases r.run_cases d with ⟨fs, -, hfs, hrun⟩ | ⟨reason, -, hrun⟩ | ⟨-, message, hrun⟩
  · exact hfs f (hrun ▸ hf)
  · rw [hrun] at hf
    cases hf
  · rw [hrun] at hf
    cases List.mem_singleton.mp hf
    exact ⟨d.root, rfl⟩

/-! ## What one rule reports -/

/-- What an undisturbed run reports where the rule is the only one that is registered. -/
def Rule.ReportsAlone (r : Rule) (mode : Mode) (o : Overrides) (d : Document) (own : Report) : Prop :=
  ∃ p, Profile.empty.register r = .ok p ∧ lintWith undisturbed mode p o d = some own

theorem Rule.reportsAlone_iff {r : Rule} (hblank : Text.isBlankText r.name = false) {mode : Mode} {o : Overrides}
    {d : Document} {own : Report} : r.ReportsAlone mode o d own ↔ own = Report.aggregate (r.run d) o 1 := by
  have hregister : Profile.empty.register r = .ok ⟨[r]⟩ := Profile.register_of_fresh hblank List.not_mem_nil
  have hlint := lintWith_undisturbed mode ⟨[r]⟩ o d
  rw [List.flatMap_singleton] at hlint
  constructor
  · rintro ⟨p, hp, hown⟩
    cases hregister.symm.trans hp
    exact (Option.some.inj (hlint.symm.trans hown)).symm
  · rintro rfl
    exact ⟨⟨[r]⟩, hregister, hlint⟩

theorem Report.findings_aggregate_nil (o : Overrides) (n : Nat) : (aggregate [] o n).findings = [] := by
  simp [aggregate, ofSorted, Finding.sort, dropRepeats]

theorem Report.findings_aggregate_singleton (f : Finding) (o : Overrides) (n : Nat) :
    (aggregate [f] o n).findings = [{ f with severity := (o.get? f.rule).getD f.severity }] := by
  have hnodup : ([f].map o.apply).Nodup := List.nodup_singleton _
  rw [findings_aggregate hnodup, List.map_singleton, o.apply_eq, Finding.sort, List.mergeSort_singleton]

/-- An undisturbed run of any rules gives a report. It holds just what the rules report each on its own. A rule that
breaks down reports one error about itself, which can be overridden by a name of its own, and none of its own findings;
an inapplicable rule reports nothing; any other rule reports what it finds. All paths of the report resolve. -/
theorem lint_isolates_rules {p : Profile} (hblank : ∀ r ∈ p.rules, Text.isBlankText r.name = false) (o : Overrides)
    (d : Document) (mode : Mode) :
    ∃ report, lintWith undisturbed mode p o d = some report ∧
      (∀ f, f ∈ report.findings ↔ ∃ r ∈ p.rules, ∃ own, r.ReportsAlone mode o d own ∧ f ∈ own.findings) ∧
      (∀ r ∈ p.rules, ∃ own, r.ReportsAlone mode o d own ∧
        (r.Breaks d → ∃ message, own.findings =
          [{ rule := r.name ++ ":internal-error"
             severity := (o.get? (r.name ++ ":internal-error")).getD .error
             message := message
             path := []
             span := ⟨1, 1, 1, 1⟩ }]) ∧
        (∀ reason, r.evaluate d.root = .inapplicable reason → own.findings = []) ∧
        ∀ fs, r.evaluate d.root = .findings fs → ¬ r.Breaks d →
          ∀ f, f ∈ own.findings ↔ ∃ g ∈ fs, f = { g with severity := (o.get? g.rule).getD g.severity }) ∧
      ∀ f ∈ report.findings, ∃ n, d.resolve f.path = .ok n := by
  refine ⟨_, lintWith_undisturbed mode p o d, ?_, ?_, ?_⟩
  · intro f
    rw [Report.mem_findings_aggregate]
    constructor
    · rintro ⟨g, hg, rfl⟩
      obtain ⟨r, hr, hg⟩ := List.mem_flatMap.mp hg
      exact ⟨r, hr, _, (Rule.reportsAlone_iff (hblank r hr)).mpr rfl,
        Report.mem_findings_aggregate.mpr ⟨g, hg, rfl⟩⟩
    · rintro ⟨r, hr, own, hown, hf⟩
      rw [(Rule.reportsAlone_iff (hblank r hr)).mp hown, Report.mem_findings_aggregate] at hf
      obtain ⟨g, hg, rfl⟩ := hf
      exact ⟨g, List.mem_flatMap.mpr ⟨r, hr, hg⟩, rfl⟩
  · intro r hr
    refine ⟨_, (Rule.reportsAlone_iff (hblank r hr)).mpr rfl, ?_, ?_, ?_⟩
    · intro hbreaks
      obtain ⟨message, hrun⟩ := Rule.run_of_breaks hbreaks
      rw [hrun, Report.findings_aggregate_singleton]
      exact ⟨_, rfl⟩
    · intro reason hreason
      rw [Rule.run_of_inapplicable hreason, Report.findings_aggregate_nil]
    · intro fs hfs hsound f
      rw [Rule.run_of_findings hfs hsound, Report.mem_findings_aggregate]
  · intro f hf
    obtain ⟨g, hg, rfl⟩ := Report.mem_findings_aggregate.mp hf
    obtain ⟨r, -, hg⟩ := List.mem_flatMap.mp hg
    obtain ⟨n, hn⟩ := r.resolve_of_mem_run hg
    exact ⟨n, hn⟩

/-- Four rules, of which one has a finding about the root and another one about a key that is not there, one crashes,
one does not apply and one is about the root. The first one is overridden by the name of its breakdown. -/
theorem lint_isolates_rules_mixed :
    let rule (name : Char) (outcome : Outcome) : Rule :=
      ⟨String.ofList [name], .warning, String.ofList [], fun _ => outcome, fun _ => []⟩
    let here : Finding := ⟨String.ofList ['h'], .warning, String.ofList ['m'], [], ⟨1, 1, 1, 4⟩⟩
    let nowhere : Finding := { here with path := [.key (String.ofList ['k'])] }
    let stray := rule 'a' (.findings [here, nowhere])
    let p : Profile := ⟨[stray, rule 'b' (.crashed none), rule 'c' (.inapplicable (String.ofList ['r'])),
      rule 'd' (.findings [here])]⟩
    let o := Overrides.empty.set (stray.name ++ ":internal-error") .info
    let d := Document.ofTree (.scalar [] ⟨1, 1, 1, 4⟩ .null)
    (∀ r ∈ p.rules, Text.isBlankText r.name = false) ∧ stray ∈ p.rules ∧ stray.Breaks d ∧
      ∃ report own message, lintWith undisturbed .parallel p o d = some report ∧ stray.ReportsAlone .parallel o d own ∧
        own.findings = [⟨stray.name ++ ":internal-error", .info, message, [], ⟨1, 1, 1, 1⟩⟩] ∧
        (∀ f ∈ own.findings, f ∈ report.findings) ∧ ∀ f ∈ report.findings, ∃ n, d.resolve f.path = .ok n := by
  intro rule here nowhere stray p o d
  have hblank : ∀ r ∈ p.rules, Text.isBlankText r.name = false := by
    simp [p, stray, rule, Text.isBlankText, Text.isBlank]
  have hmem : stray ∈ p.rules := List.mem_cons_self
  have hbreaks : stray.Breaks d := ⟨nowhere, by simp, _, rfl⟩
  have hover : (o.get? (stray.name ++ ":internal-error")).getD .error = .info := by
    simp [o, Overrides.set, Overrides.get?]
  obtain ⟨report, hlint, hunion, hrules, hresolve⟩ := lint_isolates_rules hblank o d .parallel
  obtain ⟨own, hown, hbroken, -⟩ := hrules stray hmem
  obtain ⟨message, hfindings⟩ := hbroken hbreaks
  rw [hover] at hfindings
  exact ⟨hblank, hmem, hbreaks, report, own, message, hlint, hown, hfindings,
    fun f hf => (hunion f).mpr ⟨stray, hmem, own, hown, hf⟩, hresolve⟩

end DocLint
