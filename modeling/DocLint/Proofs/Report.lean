import DocLint.Proofs.Finding
import DocLint.Report

/-!
# Proofs: what a report holds

The findings of a report (`aggregate`) are the one list that is strictly in order and whose members are the overridden
findings: sorting moves findings and drops none, and equal findings, which sorting puts side by side, are
kept once. So a report does not depend on the order of what it is made of nor on repetitions. Every
finding has one of three severities, so the three numbers of a report add up to the number of its
findings.
-/

namespace DocLint

/-! ## Overrides -/

/-- A finding with the severity that an operator chose for its rule, if there is one. -/
theorem Overrides.apply_eq (o : Overrides) (f : Finding) :
    o.apply f = { f with severity := (o.get? f.rule).getD f.severity } := by
  unfold apply
  split
  · case h_1 s hs => rw [hs, Option.getD_some]
  · case h_2 hs => rw [hs, Option.getD_none]

namespace Report

/-! ## Repeats -/

theorem dropRepeats_of_nodup {fs : List Finding} (h : fs.Nodup) : dropRepeats fs = fs := by
  fun_induction dropRepeats fs with
  | case1 => rfl
  | case2 f => rfl
  | case3 f r _ => exact absurd List.mem_cons_self (List.nodup_cons.mp h).1
  | case4 f g r _ ih => rw [ih (List.nodup_cons.mp h).2]

/-- Distinct findings are all kept. -/
theorem findings_aggregate {fs : List Finding} {o : Overrides} (h : (fs.map o.apply).Nodup) (n : Nat) :
    (aggregate fs o n).findings = Finding.sort (fs.map o.apply) := by
  rw [aggregate, ofSorted, dropRepeats_of_nodup ((Finding.sort_perm _).nodup_iff.mpr h)]

theorem count_add (fs : List Finding) : count .error fs + count .warning fs + count .info fs = fs.length := by
  induction fs with
  | nil => rfl
  | cons f r ih =>
    simp only [count, List.countP_cons, List.length_cons] at *
    cases f.severity <;> simp <;> omega

/-- The three numbers of a report add up to the number of its findings. -/
theorem counts_aggregate (fs : List Finding) (o : Overrides) (n : Nat) :
    (aggregate fs o n).errors + (aggregate fs o n).warnings + (aggregate fs o n).infos =
      (aggregate fs o n).findings.length :=
  count_add _

/-! ## The findings of a report -/

theorem mem_dropRepeats {f : Finding} {fs : List Finding} : f ∈ dropRepeats fs ↔ f ∈ fs := by
  fun_induction dropRepeats fs with
  | case1 => rfl
  | case2 g => rfl
  | case3 g r ih => rw [ih, List.mem_cons, List.mem_cons, List.mem_cons, or_self_left]
  | case4 g h r _ ih => rw [List.mem_cons, ih, List.mem_cons (a := f) (b := g)]

/-- A list in order is strictly in order once no finding equals the one before it. -/
theorem pairwise_dropRepeats {fs : List Finding} (h : fs.Pairwise fun f g => Finding.precedes f g = true) :
    (dropRepeats fs).Pairwise Finding.Before := by
  fun_induction dropRepeats fs with
  | case1 => exact List.Pairwise.nil
  | case2 f => exact List.pairwise_singleton _ _
  | case3 f r ih => exact ih (List.pairwise_cons.mp h).2
  | case4 f g r hne ih =>
    obtain ⟨hf, hr⟩ := List.pairwise_cons.mp h
    have hfg : Finding.Before f g := Finding.before_of_precedes (hf g List.mem_cons_self) hne
    refine List.pairwise_cons.mpr ⟨?_, ih hr⟩
    intro x hx
    rcases List.mem_cons.mp (mem_dropRepeats.mp hx) with rfl | hx
    · exact hfg
    · exact Finding.Before.trans_precedes hfg ((List.pairwise_cons.mp hr).1 x hx)

theorem mem_findings_aggregate {f : Finding} {fs : List Finding} {o : Overrides} {n : Nat} :
    f ∈ (aggregate fs o n).findings ↔ ∃ g ∈ fs, f = { g with severity := (o.get? g.rule).getD g.severity } := by
  rw [aggregate, ofSorted, mem_dropRepeats, Finding.mem_sort, List.mem_map]
  simp only [Overrides.apply_eq, eq_comm]

theorem pairwise_findings_aggregate (fs : List Finding) (o : Overrides) (n : Nat) :
    (aggregate fs o n).findings.Pairwise Finding.Before :=
  pairwise_dropRepeats (Finding.pairwise_sort _)

/-- A report depends on the members of its list of findings alone, not on their order or repetitions. -/
theorem aggregate_congr {fs gs : List Finding} (h : ∀ f, f ∈ gs ↔ f ∈ fs) (o : Overrides) (n : Nat) :
    aggregate gs o n = aggregate fs o n := by
  have hfindings : dropRepeats (Finding.sort (gs.map o.apply)) = dropRepeats (Finding.sort (fs.map o.apply)) := by
    apply Finding.eq_of_mem_iff (pairwise_findings_aggregate gs o n) (pairwise_findings_aggregate fs o n)
    intro f
    rw [mem_findings_aggregate, mem_findings_aggregate]
    simp only [h]
  rw [aggregate, aggregate, hfindings]

theorem count_eq_length_filter (s : Severity) (fs : List Finding) :
    count s fs = (fs.filter (·.severity = s)).length :=
  List.countP_eq_length_filter

theorem passed_aggregate_iff (fs : List Finding) (o : Overrides) (n : Nat) :
    (aggregate fs o n).passed = true ↔ ∀ f ∈ (aggregate fs o n).findings, f.severity ≠ .error := by
  simp [aggregate, ofSorted, count, List.countP_eq_zero]

/-- A report does not depend on what is chosen for rules that find nothing. -/
theorem aggregate_congr_overrides {fs : List Finding} {o o' : Overrides}
    (h : ∀ f ∈ fs, o.get? f.rule = o'.get? f.rule) (n : Nat) : aggregate fs o n = aggregate fs o' n := by
  have happly : fs.map o.apply = fs.map o'.apply := by
    refine List.map_congr_left fun f hf => ?_
    rw [Overrides.apply_eq, Overrides.apply_eq, h f hf]
  rw [aggregate, aggregate, happly]

theorem exitStatus_of_passed {r : Report} (h : r.passed = true) : r.exitStatus = .passed :=
  if_pos h

theorem exitStatus_of_not_passed {r : Report} (h : r.passed = false) : r.exitStatus = .failed :=
  if_neg (Bool.eq_false_iff.mp h)

/-- Whatever the findings and the overrides, the report holds the overridden findings strictly in order, and no other
list of them is strictly in order. It counts them by severity and passes if none is an error. Two lists with the same
members give the same report. -/
theorem aggregate_determined (fs : List Finding) (o : Overrides) (n : Nat) :
    let report := aggregate fs o n
    let overridden (f : Finding) := ∃ g ∈ fs, f = { g with severity := (o.get? g.rule).getD g.severity }
    report.findings.Pairwise Finding.Before ∧
    (∀ f, f ∈ report.findings ↔ overridden f) ∧
    (∀ gs : List Finding, gs.Pairwise Finding.Before → (∀ f, f ∈ gs ↔ overridden f) → gs = report.findings) ∧
    report.errors = (report.findings.filter (·.severity = .error)).length ∧
    report.warnings = (report.findings.filter (·.severity = .warning)).length ∧
    report.infos = (report.findings.filter (·.severity = .info)).length ∧
    report.errors + report.warnings + report.infos = report.findings.length ∧
    (report.passed = true ↔ ∀ f ∈ report.findings, f.severity ≠ .error) ∧
    report.rulesEvaluated = n ∧
    ∀ gs : List Finding, (∀ f, f ∈ gs ↔ f ∈ fs) → aggregate gs o n = report := by
  intro report overridden
  have hmem : ∀ f, f ∈ report.findings ↔ overridden f := fun f => mem_findings_aggregate
  refine ⟨pairwise_findings_aggregate fs o n, hmem, ?_, ?_, ?_, ?_, counts_aggregate fs o n,
    passed_aggregate_iff fs o n, rfl, fun gs hgs => aggregate_congr hgs o n⟩
  · intro gs hsorted hgs
    apply Finding.eq_of_mem_iff hsorted (pairwise_findings_aggregate fs o n)
    intro f
    rw [hgs f, hmem f]
  · exact count_eq_length_filter .error _
  · exact count_eq_length_filter .warning _
  · exact count_eq_length_filter .info _

end Report

end DocLint
