import DocLint.Proofs.Override
import DocLint.Proofs.Report

/-!
# Proofs: overrides one after the other

The findings of a report can be made a report again, with other overrides. Between the two, findings have been sorted
and repeated ones dropped under severities that change once more. This cannot be seen in the end: a report depends on
the members of a list alone, and sorting and dropping repeats leave the members as they are. What remains is that a
severity is chosen twice for each finding, and the later choice counts.
-/

namespace DocLint

namespace Overrides

theorem rule_apply (o : Overrides) (f : Finding) : (o.apply f).rule = f.rule := by
  rw [apply_eq]

/-- To choose severities twice is to choose them once by both overrides, of which the later ones count. -/
theorem apply_merge (o later : Overrides) (f : Finding) : (o.merge later).apply f = later.apply (o.apply f) := by
  rw [apply_eq, apply_eq later, rule_apply, apply_eq o, get?_merge]
  cases later.get? f.rule with
  | none => rfl
  | some s => rfl

/-- Nothing changes where the same severities are chosen again. -/
theorem apply_merge_self (o : Overrides) (f : Finding) : (o.merge o).apply f = o.apply f := by
  have hget : (o.merge o).get? f.rule = o.get? f.rule := by
    rw [get?_merge]
    cases o.get? f.rule with
    | none => rfl
    | some s => rfl
  rw [apply_eq, apply_eq, hget]

end Overrides

namespace Report

/-- A report of the findings of a report is one of the overridden findings. -/
theorem aggregate_findings_aggregate (fs : List Finding) (o later : Overrides) (m n : Nat) :
    aggregate (aggregate fs o m).findings later n = aggregate (fs.map o.apply) later n := by
  apply aggregate_congr
  intro f
  rw [aggregate, ofSorted, mem_dropRepeats, Finding.mem_sort]

theorem aggregate_map_apply (fs : List Finding) (o later : Overrides) (n : Nat) :
    aggregate (fs.map o.apply) later n = aggregate fs (o.merge later) n := by
  have hmap : (fs.map o.apply).map later.apply = fs.map (o.merge later).apply := by
    rw [List.map_map]
    apply List.map_congr_left
    intro f _
    exact (o.apply_merge later f).symm
  rw [aggregate, aggregate, hmap]

/-- One stage more. -/
theorem aggregate_merge (fs : List Finding) (o later : Overrides) (m n : Nat) :
    aggregate (aggregate fs o m).findings later n = aggregate fs (o.merge later) n :=
  (aggregate_findings_aggregate fs o later m n).trans (aggregate_map_apply fs o later n)

theorem aggregate_merge_self (fs : List Finding) (o : Overrides) (n : Nat) :
    aggregate fs (o.merge o) n = aggregate fs o n := by
  have hmap : fs.map (o.merge o).apply = fs.map o.apply :=
    List.map_congr_left fun f _ => o.apply_merge_self f
  rw [aggregate, aggregate, hmap]

/-- Any number of stages. -/
theorem aggregate_foldl_merge (fs : List Finding) (stages : List Overrides) (o : Overrides) (n : Nat) :
    stages.foldl (fun r later => aggregate r.findings later r.rulesEvaluated) (aggregate fs o n) =
      aggregate fs (stages.foldl Overrides.merge o) n := by
  induction stages generalizing o with
  | nil => rfl
  | cons later stages ih =>
    have hstep : aggregate (aggregate fs o n).findings later (aggregate fs o n).rulesEvaluated =
        aggregate fs (o.merge later) n := aggregate_merge fs o later n n
    rw [List.foldl_cons, List.foldl_cons, hstep]
    exact ih (o.merge later)

/-- A report whose findings are made a report again, with later overrides, is the one that both overrides together give
at once; where they differ, the later ones count. So is a report after any number of stages, and with the overrides it
was made with a report is made again as it was. -/
theorem aggregate_again (fs : List Finding) (o later : Overrides) (n : Nat) :
    let report := aggregate fs o n
    aggregate report.findings later n = aggregate fs (o.merge later) n ∧
    (∀ rule, (o.merge later).get? rule = (later.get? rule).or (o.get? rule)) ∧
    aggregate report.findings o report.rulesEvaluated = report ∧
    ∀ stages : List Overrides,
      stages.foldl (fun r next => aggregate r.findings next r.rulesEvaluated) report =
        aggregate fs (stages.foldl Overrides.merge o) n := by
  intro report
  refine ⟨aggregate_merge fs o later n n, ?_, ?_, ?_⟩
  · intro rule
    rw [Overrides.get?_merge]
    exact Option.orElse_eq_or
  · have hagain : aggregate report.findings o report.rulesEvaluated = aggregate fs (o.merge o) n :=
      aggregate_merge fs o o n n
    rw [hagain]
    exact aggregate_merge_self fs o n
  · intro stages
    exact aggregate_foldl_merge fs stages o n

end Report

end DocLint
