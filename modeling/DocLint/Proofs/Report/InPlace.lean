import DocLint.Proofs.Precedence
import DocLint.Proofs.Report.Overriding
import Mathlib.Data.List.Destutter

/-!
# Proofs: overrides leave findings in their places

Severities are compared last, and findings that are alike but for their severities are of one rule, so an override gives
them the same severity or leaves both as they are. So findings that are in order stay in order when they are overridden,
and overriding a finished report gives what overriding its findings first would have given. Only findings that have
become equal are no longer told apart.
-/

namespace DocLint

/-! ## The order without severities -/

namespace Finding

/-- The order of reports as far as it does not look at severities. -/
def compareButSeverity : Finding → Finding → Ordering :=
  compareLex (compareOn fun f => f.span.startLine) <|
  compareLex (compareOn fun f => f.span.startColumn) <|
  compareLex (compareOn fun f => f.rule) <|
  compareLex (compareOn fun f => f.message) <|
  compareLex (fun f g => Path.compare f.path g.path) <|
  compareLex (compareOn fun f => f.span.endLine) <|
  compareOn fun f => f.span.endColumn

/-- Severities only break the ties that are left at the end. -/
theorem compare_eq_then (f g : Finding) :
    compare f g = (compareButSeverity f g).then (Ord.compare f.severity.rank g.severity.rank) := by
  simp only [compare, compareButSeverity, compareLex, compareOn, Ordering.then_assoc]

theorem eq_of_compareButSeverity {f g : Finding} (h : compareButSeverity f g = .eq) :
    f = { g with severity := f.severity } := by
  have hlevel : compare f { g with severity := f.severity } = .eq := by
    have hsame : compareButSeverity f { g with severity := f.severity } = .eq := h
    have hrank : Ord.compare f.severity.rank f.severity.rank = .eq := Std.ReflOrd.compare_self
    rw [compare_eq_then, hsame]
    exact hrank
  exact Std.LawfulEqCmp.eq_of_compare hlevel

end Finding

namespace Overrides

theorem compareButSeverity_apply (o : Overrides) (f g : Finding) :
    Finding.compareButSeverity (o.apply f) (o.apply g) = Finding.compareButSeverity f g := by
  rw [apply_eq, apply_eq]
  rfl

/-- Overrides do not move one finding past another. -/
theorem precedes_apply (o : Overrides) {f g : Finding} (h : Finding.Before f g) :
    Finding.precedes (o.apply f) (o.apply g) = true := by
  unfold Finding.Before at h
  unfold Finding.precedes
  rw [Finding.compare_eq_then] at h ⊢
  rw [compareButSeverity_apply]
  cases hc : Finding.compareButSeverity f g with
  | lt => rfl
  | gt =>
    rw [hc] at h
    cases h
  | eq =>
    -- The findings differ at most in their severities, so they are of one rule.
    have hrule : f.rule = g.rule := by rw [Finding.eq_of_compareButSeverity hc]
    rw [hc] at h
    have hlevels : Ord.compare f.severity.rank g.severity.rank = .lt := h
    rw [apply_eq, apply_eq, hrule]
    cases o.get? g.rule with
    | none =>
      have hle : (Ord.compare f.severity.rank g.severity.rank).isLE = true := by rw [hlevels]; rfl
      exact hle
    | some s =>
      have hself : Ord.compare s.rank s.rank = .eq := Std.ReflOrd.compare_self
      have hle : (Ord.compare s.rank s.rank).isLE = true := by rw [hself]; rfl
      exact hle

theorem apply_empty (f : Finding) : empty.apply f = f := by
  rw [apply_eq]
  rfl

end Overrides

namespace Report

/-! ## Repeats -/

theorem dropRepeats_eq_destutter (fs : List Finding) : dropRepeats fs = fs.destutter (· ≠ ·) := by
  fun_induction dropRepeats fs with
  | case1 => rfl
  | case2 f => rfl
  | case3 f r ih => rw [ih, List.destutter_cons', List.destutter_cons_cons, if_neg (not_not_intro rfl)]
  | case4 f g r hne ih => rw [ih, List.destutter_cons', List.destutter_cons_cons, if_pos hne]

/-! ## Reports with and without overrides -/

theorem mem_findings_aggregate_empty {f : Finding} {fs : List Finding} {n : Nat} :
    f ∈ (aggregate fs .empty n).findings ↔ f ∈ fs := by
  rw [aggregate, ofSorted, mem_dropRepeats, Finding.mem_sort, List.mem_map]
  simp only [Overrides.apply_empty, exists_eq_right]

/-- To override the findings first is to override those of the report. -/
theorem findings_aggregate_eq_dropRepeats (fs : List Finding) (o : Overrides) (n : Nat) :
    (aggregate fs o n).findings = dropRepeats ((aggregate fs .empty n).findings.map o.apply) := by
  have hordered : ((aggregate fs .empty n).findings.map o.apply).Pairwise fun f g => Finding.precedes f g = true := by
    refine List.pairwise_map.mpr ((pairwise_findings_aggregate fs .empty n).imp ?_)
    intro f g hfg
    exact o.precedes_apply hfg
  apply Finding.eq_of_mem_iff (pairwise_findings_aggregate fs o n) (pairwise_dropRepeats hordered)
  intro f
  rw [mem_dropRepeats, List.mem_map, aggregate, ofSorted, mem_dropRepeats, Finding.mem_sort, List.mem_map]
  simp only [mem_findings_aggregate_empty]

/-- Every rule has one severity throughout the findings. -/
def OneLevelEach (fs : List Finding) : Prop :=
  ∀ f ∈ fs, ∀ g ∈ fs, f.rule = g.rule → f.severity = g.severity

/-- Where every rule has one severity, findings are still told apart when they are overridden. -/
theorem nodup_map_apply {fs : List Finding} (h : OneLevelEach fs) (o : Overrides) (n : Nat) :
    ((aggregate fs .empty n).findings.map o.apply).Nodup := by
  have hdistinct : (aggregate fs .empty n).findings.Nodup := (pairwise_findings_aggregate fs .empty n).imp ne_of_irrefl
  refine hdistinct.map_on ?_
  intro f hf g hg hfg
  have hrule : f.rule = g.rule := by
    have happlied := congrArg Finding.rule hfg
    rwa [Overrides.rule_apply, Overrides.rule_apply] at happlied
  have hlevel : f.severity = g.severity :=
    h f (mem_findings_aggregate_empty.mp hf) g (mem_findings_aggregate_empty.mp hg) hrule
  rw [Overrides.apply_eq, Overrides.apply_eq] at hfg
  obtain ⟨_, _, _, _, _⟩ := f
  obtain ⟨_, _, _, _, _⟩ := g
  simp only [Finding.mk.injEq] at hfg hlevel ⊢
  exact ⟨hfg.1, hlevel, hfg.2.2⟩

end Report

/-- The findings of a policy's rules have the severities of the rules. -/
theorem oneLevelEach_found {entries : List PolicyEntry} {p : Profile} (hp : Profile.ofPolicy entries = .ok p)
    (root : Node) : Report.OneLevelEach (p.found root) := by
  intro f hf g hg hrule
  obtain ⟨e, he, hename, helevel⟩ := exists_entry_of_found hp (List.Subset.refl _) hf
  obtain ⟨e', he', hename', helevel'⟩ := exists_entry_of_found hp (List.Subset.refl _) hg
  have hsame : e = e' :=
    List.inj_on_of_nodup_map (Profile.nodup_entries_ofPolicy hp) he he' (by rw [hename, hename', hrule])
  rw [helevel, helevel', hsame]

/-- A report with overrides is the one without, each severity replaced where it stands and findings dropped that have
become equal to the one before. So no finding moves past another, and nothing but severities changes. Where every rule
has one severity, as the rules of a policy do, nothing is dropped. -/
theorem Report.aggregate_in_place (fs : List Finding) (o : Overrides) (n : Nat) :
    let plain := (aggregate fs .empty n).findings
    let report := aggregate fs o n
    let overridden (f : Finding) : Finding := { f with severity := (o.get? f.rule).getD f.severity }
    report.findings = (plain.map overridden).destutter (· ≠ ·) ∧
    (∃ kept : List Finding, kept.Sublist plain ∧ report.findings = kept.map overridden) ∧
    (∀ f ∈ plain, overridden f ∈ report.findings) ∧
    (OneLevelEach fs → report.findings = plain.map overridden ∧ report.findings.length = plain.length) ∧
    ∀ entries p, Profile.ofPolicy entries = .ok p → ∀ root : Node,
      OneLevelEach (p.found root) ∧
      (aggregate (p.found root) o n).findings = (aggregate (p.found root) .empty n).findings.map overridden := by
  intro plain report overridden
  have happly : overridden = o.apply := funext fun f => (o.apply_eq f).symm
  have hreport : report.findings = dropRepeats (plain.map overridden) :=
    happly ▸ findings_aggregate_eq_dropRepeats fs o n
  have hdropped : report.findings = (plain.map overridden).destutter (· ≠ ·) := by
    rw [hreport, dropRepeats_eq_destutter]
  -- Where severities are those of rules, no two findings become equal.
  have hwhole : ∀ gs, OneLevelEach gs →
      (aggregate gs o n).findings = (aggregate gs .empty n).findings.map overridden := by
    intro gs hgs
    rw [findings_aggregate_eq_dropRepeats, happly, dropRepeats_of_nodup (nodup_map_apply hgs o n)]
  refine ⟨hdropped, ?_, ?_, ?_, ?_⟩
  · have hsublist : report.findings.Sublist (plain.map overridden) := hdropped ▸ List.destutter_sublist _ _
    exact List.sublist_map_iff.mp hsublist
  · intro f hf
    rw [hreport, mem_dropRepeats]
    exact List.mem_map_of_mem hf
  · intro hfs
    refine ⟨hwhole fs hfs, ?_⟩
    rw [hwhole fs hfs, List.length_map]
  · intro entries p hp root
    exact ⟨oneLevelEach_found hp root, hwhole _ (oneLevelEach_found hp root)⟩

end DocLint
