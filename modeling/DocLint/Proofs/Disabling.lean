import DocLint.Proofs.Run

/-!
# Proofs: rules that are disabled

To disable names removes the rules of these names and leaves the others in their order. A finding carries the name of
the rule that made it, and no two rules share one, so the report of the remaining rules is the full report without the
findings that carry a disabled name.
-/

namespace DocLint

namespace Profile

theorem rules_disable (p : Profile) (names : List String) :
    (p.disable names).rules = p.rules.filter (·.name ∉ names) := by
  induction names generalizing p with
  | nil => simp [disable]
  | cons name names ih =>
    have hrest : p.disable (name :: names) = (p.unregister name).disable names := rfl
    rw [hrest, ih, unregister, List.filter_filter]
    refine List.filter_congr fun r _ => ?_
    simp [Bool.and_comm]

theorem disable_subset (p : Profile) (names : List String) : (p.disable names).rules ⊆ p.rules := by
  rw [rules_disable]
  exact List.filter_subset_self _

/-- Neither the order of the disabled names nor their repetitions matter. -/
theorem disable_congr (p : Profile) {names names' : List String} (h : ∀ n, n ∈ names ↔ n ∈ names') :
    p.disable names = p.disable names' := by
  have hrules : (p.disable names).rules = (p.disable names').rules := by
    rw [rules_disable, rules_disable]
    simp only [h]
  exact congrArg Profile.mk hrules

/-- The disabled rules and the remaining ones are all rules there were. -/
theorem size_disable {p : Profile} (hp : p.names.Nodup) (names : List String) :
    (p.disable names).size + (names.dedup.filter p.contains).length = p.size := by
  have hperm : (p.names.filter (· ∈ names)).Perm (names.dedup.filter p.contains) := by
    rw [List.perm_ext_iff_of_nodup (hp.filter _) (names.nodup_dedup.filter _)]
    intro name
    simp [contains_iff, and_comm]
  have hremoved : (names.dedup.filter p.contains).length = p.rules.countP (·.name ∈ names) := by
    rw [← hperm.length_eq, ← List.countP_eq_length_filter, Profile.names, List.countP_map]
    rfl
  have hkept : (p.disable names).size = p.rules.countP (·.name ∉ names) := by
    rw [size, rules_disable, List.countP_eq_length_filter]
  rw [hremoved, hkept, size, List.length_eq_countP_add_countP (·.name ∈ names), Nat.add_comm]
  simp

end Profile

section Policy

variable {entries : List PolicyEntry} {p : Profile}

/-- The remaining rules find what carries none of the disabled names. -/
theorem mem_found_disable (hp : Profile.ofPolicy entries = .ok p) {names : List String} {root : Node} {f : Finding} :
    f ∈ (p.disable names).found root ↔ f ∈ p.found root ∧ f.rule ∉ names := by
  unfold Profile.found
  rw [Profile.rules_disable, List.mem_flatMap, List.mem_flatMap]
  constructor
  · rintro ⟨r, hr, hf⟩
    obtain ⟨hmem, hkept⟩ := List.mem_filter.mp hr
    refine ⟨⟨r, hmem, hf⟩, ?_⟩
    rw [rule_eq_name_of_mem hp hmem hf]
    exact of_decide_eq_true hkept
  · rintro ⟨⟨r, hr, hf⟩, hrule⟩
    rw [rule_eq_name_of_mem hp hr hf] at hrule
    exact ⟨r, List.mem_filter.mpr ⟨hr, decide_eq_true hrule⟩, hf⟩

/-- To disable names takes from the report of a policy exactly the findings that carry one of these names. The others
stay as they are and in their order, and the number of rules evaluated drops by the number of distinct names given that
were those of rules. In what order the names are given and how often does not matter. -/
theorem lint_without_disabled (hp : Profile.ofPolicy entries = .ok p) {tree : Node}
    (hkeys : (Document.ofTree tree).root.Unrepeated) (names : List String) (o : Overrides) (mode mode' : Mode) :
    ∃ full part, lintWith undisturbed mode p o (Document.ofTree tree) = some full ∧
      lintWith undisturbed mode' (p.disable names) o (Document.ofTree tree) = some part ∧
      (∀ f, f ∈ full.findings ↔ ∃ g ∈ p.found (Document.ofTree tree).root,
        f = { g with severity := (o.get? g.rule).getD g.severity }) ∧
      part.findings = full.findings.filter (·.rule ∉ names) ∧
      part.rulesEvaluated + (names.dedup.filter p.contains).length = full.rulesEvaluated ∧
      ∀ others : List String, (∀ n, n ∈ others ↔ n ∈ names) → p.disable others = p.disable names := by
  have hpart := lintWith_eq_found_of_subset hp hkeys (p.disable_subset names) o mode'
  have hsize := Profile.size_disable (Profile.nodup_names_ofPolicy hp) names
  refine ⟨_, _, lintWith_eq_found hp hkeys o mode, hpart, fun f => Report.mem_findings_aggregate, ?_, hsize,
    fun others h => p.disable_congr h⟩
  -- Both sides are strictly in order, so it is enough that they have the same members.
  apply Finding.eq_of_mem_iff (Report.pairwise_findings_aggregate _ o _)
    ((Report.pairwise_findings_aggregate _ o _).filter _)
  intro f
  rw [List.mem_filter, Report.mem_findings_aggregate, Report.mem_findings_aggregate]
  constructor
  · rintro ⟨g, hg, rfl⟩
    obtain ⟨hfull, hrule⟩ := (mem_found_disable hp).mp hg
    exact ⟨⟨g, hfull, rfl⟩, decide_eq_true hrule⟩
  · rintro ⟨⟨g, hg, rfl⟩, hrule⟩
    exact ⟨g, (mem_found_disable hp).mpr ⟨hg, of_decide_eq_true hrule⟩, rfl⟩

end Policy

/-- Of two rules that find the same node one is disabled, together with a name that no rule has. -/
theorem lint_without_disabled_pair :
    let x := String.ofList ['x']
    let y := String.ofList ['y']
    let forbid (name : String) : PolicyEntry := ⟨name, String.ofList ['*'], .forbidden, none, none⟩
    let tree := Node.mapping [] ⟨1, 1, 2, 1⟩ [(x, .scalar [] ⟨1, 8, 1, 11⟩ .null)]
    let d := Document.ofTree tree
    let names := [y, String.ofList ['z'], y]
    ∃ p full part, Profile.ofPolicy [forbid x, forbid y] = .ok p ∧
      lintWith undisturbed .parallel p .empty d = some full ∧
      lintWith undisturbed .sequential (p.disable names) .empty d = some part ∧
      part.findings = full.findings.filter (·.rule ∉ names) ∧
      (∃ f ∈ full.findings, f.rule = y) ∧ (∃ f ∈ part.findings, f.rule = x) ∧
      part.rulesEvaluated + 1 = full.rulesEvaluated := by
  intro x y forbid tree d names
  let check (name : String) : Check := ⟨name, .error, none, ⟨String.ofList ['*'], [.any]⟩, .forbidden⟩
  let p : Profile := ⟨[(check x).toRule, (check y).toRule]⟩
  have hcompile : ∀ name, (forbid name).compile = .ok (check name) := fun name =>
    PolicyEntry.compile_forbidden_everywhere name none
  have hp : Profile.ofPolicy [forbid x, forbid y] = .ok p := by
    simp only [Profile.ofPolicy, Profile.extend, hcompile]
    simp only [Profile.register, Text.isBlankText, check, Check.toRule, x, y, String.toList_ofList]
    rfl
  have hkeys : d.root.Unrepeated := by
    simp [d, tree, Document.ofTree, Node.place, Node.placeEntries, Node.Unrepeated, Node.preorder,
      Node.preorderEntries, Node.keys]
  obtain ⟨full, part, hfull, hpart, hmem, hfindings, hcount, -⟩ :=
    lint_without_disabled hp hkeys names .empty .parallel .sequential
  have hreported : ∀ g ∈ p.found d.root, ∃ f ∈ full.findings, f.rule = g.rule := fun g hg =>
    ⟨_, (hmem _).mpr ⟨g, hg, rfl⟩, rfl⟩
  have hx : ∃ f ∈ full.findings, f.rule = x := hreported _ (.head _)
  have hy : ∃ f ∈ full.findings, f.rule = y := hreported _ (.tail _ (.head _))
  obtain ⟨f, hf, hrule⟩ := hx
  have hkept : f.rule ∉ names := by
    rw [hrule]
    decide
  refine ⟨p, full, part, hp, hfull, hpart, hfindings, hy, ⟨f, ?_, hrule⟩, hcount⟩
  rw [hfindings]
  exact List.mem_filter.mpr ⟨hf, decide_eq_true hkept⟩

end DocLint
