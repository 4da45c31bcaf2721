import DocLint.Proofs.Check
import DocLint.Proofs.Document.Mirror
import DocLint.Proofs.Profile
import DocLint.Proofs.Report
import DocLint.Run

/-!
# Proofs: runs of the rules of a policy

Findings at paths that the document does not have count as a breakdown of their rule. The findings of a
policy's rule are at nodes of the document, so this happens only where a node is not found at its own
path, below a repeated key. Without repeated keys a run reports each finding of each rule exactly once.
-/

namespace DocLint

/-! ## One rule -/

theorem dangling_eq_none_iff {d : Document} {fs : List Finding} :
    dangling? d fs = none ↔ ∀ f ∈ fs, ∃ m, d.resolve f.path = .ok m := by
  rw [dangling?, List.find?_eq_none]
  refine forall₂_congr fun f _ => ?_
  cases d.resolve f.path <;> simp

/-- A check whose findings have paths of the document contributes its findings. -/
theorem Check.run_eq_found {c : Check} {d : Document}
    (h : ∀ f ∈ (c.evaluate d.root).found, ∃ m, d.resolve f.path = .ok m) :
    c.toRule.run d = (c.evaluate d.root).found := by
  have hrule : c.toRule.evaluate d.root = c.evaluate d.root := rfl
  rcases c.exists_notes d.root with ⟨reason, hr⟩ | ⟨notes, -, hf⟩
  · simp [Rule.run, hrule, hr, Outcome.found]
  · rw [hf, Outcome.found] at h
    simp [Rule.run, hrule, hf, Outcome.found, dangling_eq_none_iff.mpr h]

/-- Where no key is repeated, a check contributes its findings. -/
theorem Check.run_of_unrepeated {tree : Node} (hkeys : (Document.ofTree tree).root.Unrepeated) (c : Check) :
    c.toRule.run (Document.ofTree tree) = (c.evaluate (Document.ofTree tree).root).found := by
  refine Check.run_eq_found fun f hf => ?_
  obtain ⟨-, n, hn, hpath, -⟩ := Check.finding_at_node hf
  exact ⟨n, hpath ▸ Document.resolve_path tree hkeys n hn⟩

/-- A check with a finding whose path leads nowhere does not contribute its findings. -/
theorem Check.run_ne_found {c : Check} {d : Document} {f : Finding} (hf : f ∈ (c.evaluate d.root).found)
    (hpath : ∀ m, d.resolve f.path ≠ .ok m) : c.toRule.run d ≠ (c.evaluate d.root).found := by
  have hrule : c.toRule.evaluate d.root = c.evaluate d.root := rfl
  intro heq
  rcases c.exists_notes d.root with ⟨reason, hr⟩ | ⟨notes, -, hfound⟩
  · rw [hr] at hf
    cases hf
  · cases hd : dangling? d (notes.map c.finding) with
    | none =>
      rw [hfound, Outcome.found] at hf
      obtain ⟨m, hm⟩ := dangling_eq_none_iff.mp hd f hf
      exact hpath m hm
    | some g =>
      -- The finding about the broken rule has another name than the findings of the rule.
      have hbroken : brokenRule c.name ("reported a diagnostic at unknown path " ++ g.path.render) ∈
          (c.evaluate d.root).found := by
        rw [← heq]
        simp [Rule.run, hrule, hfound, hd]
        rfl
      have hname := (Check.finding_at_node hbroken).1
      have hlength := congrArg String.length hname
      simp [brokenRule] at hlength

/-- The policy entry that forbids all nodes at a depth. -/
def forbidDepth (k : Nat) : PolicyEntry where
  name := "depth"
  path := String.ofList ('$' :: Selector.stars k)
  demand := .forbidden
  level := none
  message := none

/-- Some entry of a policy finds something at a given node. -/
theorem exists_check_at {root n : Node} (hn : n ∈ root.preorder) :
    ∃ e c, PolicyEntry.compile e = .ok c ∧ ∃ f ∈ (c.evaluate root).found, f.path = n.path := by
  obtain ⟨k, hk⟩ := Node.exists_wildcards hn
  obtain ⟨s, hs, hsteps⟩ := Selector.read_stars k
  let c : Check :=
    { name := "depth", severity := .error, message := none, selector := s, family := .forbidden }
  have hcompile : PolicyEntry.compile (forbidDepth k) = .ok c := by
    simp only [PolicyEntry.compile, forbidDepth, hs]
    rfl
  have hnote : (n, "forbidden path " ++ n.path.render ++ " is present") ∈
      (c.selector.select root).filterMap forbiddenNote := by
    refine List.mem_filterMap.mpr ⟨.found n, ?_, rfl⟩
    rw [Selector.select, hsteps]
    exact hk
  exact ⟨forbidDepth k, c, hcompile, _, List.mem_map_of_mem hnote, rfl⟩

/-- A rule of a policy contributes exactly what it finds if and only if all its findings have paths of the
document. All rules do, whatever the policy, if and only if every node of the document is found at its own path.
That is so if no mapping repeats a key. Whatever a rule finds has the path and the span of a node. -/
theorem run_eq_found_iff {source : String} {d : Document} (h : Document.read source = .ok d) :
    (∀ e c, PolicyEntry.compile e = .ok c → (c.toRule.run d = (c.evaluate d.root).found ↔
      ∀ f ∈ (c.evaluate d.root).found, ∃ m, d.resolve f.path = .ok m)) ∧
    ((∀ e c, PolicyEntry.compile e = .ok c → c.toRule.run d = (c.evaluate d.root).found) ↔
      ∀ n ∈ d.nodes, ∃ m, d.resolve n.path = .ok m) ∧
    (d.root.Unrepeated → ∀ n ∈ d.nodes, ∃ m, d.resolve n.path = .ok m) ∧
    ∀ e c, PolicyEntry.compile e = .ok c → ∀ f ∈ (c.evaluate d.root).found,
      ∃ n ∈ d.nodes, f.path = n.path ∧ f.span = n.span := by
  obtain ⟨w, hw⟩ := exists_writing_of_read h
  obtain ⟨-, tree, -, -, rfl, -⟩ := mirrors_of_read h hw
  have hrule : ∀ e c, PolicyEntry.compile e = .ok c →
      (c.toRule.run (Document.ofTree tree) = (c.evaluate (Document.ofTree tree).root).found ↔
        ∀ f ∈ (c.evaluate (Document.ofTree tree).root).found,
          ∃ m, (Document.ofTree tree).resolve f.path = .ok m) := by
    intro e c _
    refine ⟨fun hrun f hf => ?_, Check.run_eq_found⟩
    by_contra hnone
    exact Check.run_ne_found hf (fun m hm => hnone ⟨m, hm⟩) hrun
  have hfinding : ∀ e c, PolicyEntry.compile e = .ok c → ∀ f ∈ (c.evaluate (Document.ofTree tree).root).found,
      ∃ n ∈ (Document.ofTree tree).nodes, f.path = n.path ∧ f.span = n.span :=
    fun e c _ f hf => (Check.finding_at_node hf).2
  refine ⟨hrule, ⟨fun hrun n hn => ?_, fun hresolve e c hc => ?_⟩, fun hkeys n hn => ?_, hfinding⟩
  · obtain ⟨e, c, hc, f, hf, hpath⟩ := exists_check_at hn
    exact hpath ▸ (hrule e c hc).mp (hrun e c hc) f hf
  · refine (hrule e c hc).mpr fun f hf => ?_
    obtain ⟨n, hn, hpath, -⟩ := hfinding e c hc f hf
    exact hpath ▸ hresolve n hn
  · exact ⟨n, Document.resolve_path tree hkeys n hn⟩

/-- The document of a mapping with one entry, on which no rule of a policy breaks down. -/
theorem run_eq_found_single :
    let a := String.ofList ['a']
    let source := String.ofList ['{', '"', 'a', '"', ':', '1', '}']
    let d : Document := ⟨.mapping [] ⟨1, 1, 1, 7⟩ [(a, .scalar [.key a] ⟨1, 2, 1, 6⟩ (.number (.integer 1)))]⟩
    Document.read source = .ok d ∧
      ∀ e c, PolicyEntry.compile e = .ok c → c.toRule.run d = (c.evaluate d.root).found := by
  intro a source d
  have hread : Document.read source = .ok d := by
    simp only [Document.read, source, String.toList_ofList]
    rfl
  have hkeys : d.root.Unrepeated := by
    simp [d, Node.Unrepeated, Node.preorder, Node.preorderEntries, Node.keys]
  obtain ⟨-, hiff, hsufficient, -⟩ := run_eq_found_iff hread
  exact ⟨hread, hiff.mpr (hsufficient hkeys)⟩

/-- Where `y` stands under a repeated key and not under the first entry of that key, a rule that forbids it finds
it and the run discards the finding. -/
theorem run_ne_found_repeated :
    let a := String.ofList ['a']
    let y := String.ofList ['y']
    let source := String.ofList ['{', '"', 'a', '"', ':', '{', '"', 'x', '"', ':', '1', '}', ',',
      '"', 'a', '"', ':', '{', '"', 'y', '"', ':', '2', '}', '}']
    let entry : PolicyEntry :=
      ⟨String.ofList ['r'], String.ofList ['$', '.', '*', '.', 'y'], .forbidden, none, none⟩
    let leaf := Node.scalar [.key a, .key y] ⟨1, 19, 1, 23⟩ (.number (.integer 2))
    ∃ d c, Document.read source = .ok d ∧ entry.compile = .ok c ∧
      (c.evaluate d.root).found = [c.finding (leaf, "forbidden path " ++ leaf.path.render ++ " is present")] ∧
      c.toRule.run d ≠ (c.evaluate d.root).found := by
  intro a y source entry leaf
  let x := String.ofList ['x']
  let first := Node.mapping [.key a] ⟨1, 2, 1, 12⟩
    [(x, .scalar [.key a, .key x] ⟨1, 7, 1, 11⟩ (.number (.integer 1)))]
  let second := Node.mapping [.key a] ⟨1, 14, 1, 24⟩ [(y, leaf)]
  let d : Document := ⟨.mapping [] ⟨1, 1, 1, 25⟩ [(a, first), (a, second)]⟩
  let c : Check := ⟨entry.name, .error, none, ⟨entry.path, [.any, .key y]⟩, .forbidden⟩
  have hread : Document.read source = .ok d := by
    simp only [Document.read, source, String.toList_ofList]
    rfl
  have hcompile : entry.compile = .ok c := by
    simp only [PolicyEntry.compile, entry, Selector.read, Text.trim, String.toList_ofList]
    rfl
  have hfound : (c.evaluate d.root).found =
      [c.finding (leaf, "forbidden path " ++ leaf.path.render ++ " is present")] := rfl
  have hmissing : ∀ m, d.resolve leaf.path ≠ .ok m := by
    have herror : d.resolve leaf.path = .error ⟨[.key a, .key y], .noKey y⟩ := rfl
    intro m hm
    rw [herror] at hm
    cases hm
  have hmem : c.finding (leaf, "forbidden path " ++ leaf.path.render ++ " is present") ∈
      (c.evaluate d.root).found := by
    rw [hfound]
    exact List.mem_singleton.mpr rfl
  exact ⟨d, c, hread, hcompile, hfound, Check.run_ne_found hmem hmissing⟩

/-! ## Whole runs -/

theorem runSequential_of_clear {answers : Nat → Bool} {k : Nat} {rs : List Rule}
    (h : ∀ i < rs.length, answers (k + i) = false) (d : Document) :
    runSequential answers d k rs = (rs.map fun r => r.run d, false) := by
  induction rs generalizing k with
  | nil => rfl
  | cons r rs ih =>
    have hfirst : answers k = false := h 0 (Nat.succ_pos _)
    have hrest : ∀ i < rs.length, answers (k + 1 + i) = false := by
      intro i hi
      rw [Nat.add_right_comm]
      exact h (i + 1) (Nat.succ_lt_succ hi)
    simp [runSequential, hfirst, ih hrest]

theorem runParallel_of_clear {answers : Nat → Bool} {k : Nat} {rs : List Rule}
    (h : ∀ i < rs.length, answers (k + i) = false) (d : Document) :
    runParallel answers d k rs = rs.map fun r => some (r.run d) := by
  refine List.ext_getElem (by simp [runParallel]) fun i hi _ => ?_
  have hlength : i < rs.length := by simpa [runParallel] using hi
  simp [runParallel, h i hlength]

theorem mapM_some {α β : Type} (f : α → β) (xs : List α) :
    (xs.map fun x => some (f x)).mapM id = some (xs.map f) := by
  induction xs with
  | nil => rfl
  | cons x xs ih => simp [ih]

/-- In either mode a run of which no look says stop collects what every rule contributes. -/
theorem collectWith_of_clear {answers : Nat → Bool} {p : Profile} (h : ∀ k ≤ p.size, answers k = false)
    (mode : Mode) (d : Document) :
    collectWith answers mode p d = some (Finding.sort (p.rules.flatMap fun r => r.run d)) := by
  have hstart : answers 0 = false := h 0 (Nat.zero_le _)
  have hrules : ∀ i < p.rules.length, answers (1 + i) = false := by
    intro i hi
    rw [Nat.add_comm]
    exact h (i + 1) hi
  cases mode with
  | sequential => simp [collectWith, hstart, runSequential_of_clear hrules, List.flatMap_def]
  | parallel => simp only [collectWith, hstart, runParallel_of_clear hrules, mapM_some, List.flatMap_def]; rfl

theorem collectWith_undisturbed (mode : Mode) (p : Profile) (d : Document) :
    collectWith undisturbed mode p d = some (Finding.sort (p.rules.flatMap fun r => r.run d)) :=
  collectWith_of_clear (fun _ _ => rfl) mode d

/-- The report of an undisturbed run is that of what the rules contribute. -/
theorem lintWith_undisturbed (mode : Mode) (p : Profile) (o : Overrides) (d : Document) :
    lintWith undisturbed mode p o d = some (Report.aggregate (p.rules.flatMap fun r => r.run d) o p.size) := by
  unfold lintWith
  rw [collectWith_undisturbed, Option.map_some, Report.aggregate_congr fun f => Finding.mem_sort]

/-- Each document of a batch has a run of its own. -/
theorem lintBatch_getElem? (answers : Nat → Nat → Bool) (mode : Mode) (p : Profile) (o : Overrides)
    (ds : List Document) (i : Nat) :
    (lintBatch answers mode p o ds)[i]? = ds[i]?.map (lintWith (answers i) mode p o) :=
  List.getElem?_mapIdx

theorem lintBatch_undisturbed (mode : Mode) (p : Profile) (o : Overrides) (ds : List Document) :
    lintBatch (fun _ => undisturbed) mode p o ds =
      ds.map fun d => some (Report.aggregate (p.rules.flatMap fun r => r.run d) o p.size) := by
  refine List.ext_getElem? fun i => ?_
  rw [lintBatch_getElem?, List.getElem?_map, ← funext (lintWith_undisturbed mode p o)]

/-- What the rules of a profile find. -/
def Profile.found (p : Profile) (root : Node) : List Finding :=
  p.rules.flatMap fun r => (r.evaluate root).found

/-- Findings of distinct rules or paths stay distinct whatever their severities become. -/
theorem nodup_overridden (o : Overrides) {fs : List Finding} (h : (fs.map fun f => (f.rule, f.path)).Nodup) :
    (fs.map fun f => { f with severity := (o.get? f.rule).getD f.severity }).Nodup := by
  have hkeyed : ((fs.map fun f => { f with severity := (o.get? f.rule).getD f.severity }).map
      fun f => (f.rule, f.path)).Nodup := by
    rw [List.map_map]
    exact h
  exact hkeyed.of_map

section Policy

variable {entries : List PolicyEntry} {p : Profile} {tree : Node}

theorem run_eq_found_of_mem (hp : Profile.ofPolicy entries = .ok p)
    (hkeys : (Document.ofTree tree).root.Unrepeated) {r : Rule} (hr : r ∈ p.rules) :
    r.run (Document.ofTree tree) = (r.evaluate (Document.ofTree tree).root).found := by
  obtain ⟨e, c, -, rfl⟩ := Profile.exists_check_of_mem hp hr
  exact c.run_of_unrepeated hkeys

/-- The report of an undisturbed run of some rules of a policy is that of the findings of these rules. -/
theorem lintWith_eq_found_of_subset (hp : Profile.ofPolicy entries = .ok p)
    (hkeys : (Document.ofTree tree).root.Unrepeated) {q : Profile} (hq : q.rules ⊆ p.rules) (o : Overrides)
    (mode : Mode) :
    lintWith undisturbed mode q o (Document.ofTree tree) =
      some (Report.aggregate (q.found (Document.ofTree tree).root) o q.size) := by
  have hall : (q.rules.flatMap fun r => r.run (Document.ofTree tree)) = q.found (Document.ofTree tree).root :=
    List.flatMap_congr fun r hr => run_eq_found_of_mem hp hkeys (hq hr)
  rw [lintWith_undisturbed, hall]

theorem lintWith_eq_found (hp : Profile.ofPolicy entries = .ok p) (hkeys : (Document.ofTree tree).root.Unrepeated)
    (o : Overrides) (mode : Mode) :
    lintWith undisturbed mode p o (Document.ofTree tree) =
      some (Report.aggregate (p.found (Document.ofTree tree).root) o p.size) :=
  lintWith_eq_found_of_subset hp hkeys (List.Subset.refl _) o mode

theorem rule_eq_name_of_mem (hp : Profile.ofPolicy entries = .ok p) {r : Rule} (hr : r ∈ p.rules) {root : Node}
    {f : Finding} (hf : f ∈ (r.evaluate root).found) : f.rule = r.name := by
  obtain ⟨e, c, -, rfl⟩ := Profile.exists_check_of_mem hp hr
  exact (Check.finding_at_node hf).1

/-- No two findings of one rule have the same path. -/
theorem nodup_paths_of_mem (hp : Profile.ofPolicy entries = .ok p)
    (hkeys : (Document.ofTree tree).root.Unrepeated) {r : Rule} (hr : r ∈ p.rules) :
    ((r.evaluate (Document.ofTree tree).root).found.map (·.path)).Nodup := by
  obtain ⟨e, c, -, rfl⟩ := Profile.exists_check_of_mem hp hr
  exact c.nodup_paths (Document.placed_ofTree tree) hkeys

/-- No two findings of a policy's rules have the same rule and the same path. -/
theorem nodup_found (hp : Profile.ofPolicy entries = .ok p) (hkeys : (Document.ofTree tree).root.Unrepeated) :
    ((p.found (Document.ofTree tree).root).map fun f => (f.rule, f.path)).Nodup := by
  rw [Profile.found, List.map_flatMap, List.nodup_flatMap]
  refine ⟨fun r hr => ?_, ?_⟩
  · have hpaths := nodup_paths_of_mem hp hkeys hr
    have hkeyed : (((r.evaluate (Document.ofTree tree).root).found.map fun f => (f.rule, f.path)).map
        Prod.snd).Nodup := by
      rw [List.map_map]
      exact hpaths
    exact hkeyed.of_map
  · have hnames := List.pairwise_map.mp (Profile.nodup_names_ofPolicy hp)
    refine hnames.imp_of_mem fun {r s} hr hs hne key hkr hks => hne ?_
    obtain ⟨f, hf, rfl⟩ := List.mem_map.mp hkr
    obtain ⟨g, hg, hfg⟩ := List.mem_map.mp hks
    rw [← rule_eq_name_of_mem hp hr hf, ← rule_eq_name_of_mem hp hs hg]
    exact (congrArg Prod.fst hfg).symm

/-- An undisturbed run of a policy on a document without repeated keys reports every finding of every rule
exactly once, with no change but that of its severity, and nothing else: no findings of a rule share a path,
none is dropped as a repeat, the counts add up, and each finding is at a node with its span. -/
theorem lint_reports_every_finding (hp : Profile.ofPolicy entries = .ok p)
    (hkeys : (Document.ofTree tree).root.Unrepeated) (o : Overrides) (mode : Mode) :
    let d := Document.ofTree tree
    ∃ collected report,
      collectWith undisturbed mode p d = some collected ∧
      lintWith undisturbed mode p o d = some report ∧
      report.findings.Perm ((p.found d.root).map fun f =>
        { f with severity := (o.get? f.rule).getD f.severity }) ∧
      report.findings.Nodup ∧
      report.findings = Finding.sort (collected.map o.apply) ∧
      (∀ r ∈ p.rules, ((r.evaluate d.root).found.map (·.path)).Nodup) ∧
      report.errors + report.warnings + report.infos =
        (p.rules.map fun r => (r.evaluate d.root).found.length).sum ∧
      ∀ f ∈ report.findings, ∃ n, d.resolve f.path = .ok n ∧ n.span = f.span := by
  intro d
  have hall : (p.rules.flatMap fun r => r.run d) = p.found d.root :=
    List.flatMap_congr fun r hr => run_eq_found_of_mem hp hkeys hr
  have hcollect : collectWith undisturbed mode p d = some (Finding.sort (p.found d.root)) := by
    rw [collectWith_undisturbed, hall]
  have hperm : ((Finding.sort (p.found d.root)).map o.apply).Perm
      ((p.found d.root).map fun f => { f with severity := (o.get? f.rule).getD f.severity }) := by
    rw [← funext o.apply_eq]
    exact (Finding.sort_perm _).map o.apply
  have hnodup : ((Finding.sort (p.found d.root)).map o.apply).Nodup :=
    hperm.nodup_iff.mpr (nodup_overridden o (nodup_found hp hkeys))
  have hkept := Report.findings_aggregate hnodup p.size
  refine ⟨Finding.sort (p.found d.root), Report.aggregate (Finding.sort (p.found d.root)) o p.size, hcollect,
    by rw [lintWith, hcollect]; rfl, ?_, ?_, hkept, fun r hr => nodup_paths_of_mem hp hkeys hr, ?_, ?_⟩
  · rw [hkept]
    exact (Finding.sort_perm _).trans hperm
  · rw [hkept]
    exact (Finding.sort_perm _).nodup_iff.mpr hnodup
  · rw [Report.counts_aggregate, hkept, (Finding.sort_perm _).length_eq, hperm.length_eq, List.length_map,
      Profile.found, List.length_flatMap]
  · intro f hf
    rw [hkept] at hf
    obtain ⟨g, hg, rfl⟩ := List.mem_map.mp (hperm.subset ((Finding.sort_perm _).subset hf))
    obtain ⟨r, hr, hgr⟩ := List.mem_flatMap.mp hg
    obtain ⟨e, c, -, rfl⟩ := Profile.exists_check_of_mem hp hr
    obtain ⟨-, n, hn, hpath, hspan⟩ := Check.finding_at_node hgr
    exact ⟨n, hpath ▸ Document.resolve_path tree hkeys n hn, hspan.symm⟩

end Policy

/-- Two rules, of which one finds both entries of a mapping and is overridden, and the other finds one of them. -/
theorem lint_reports_every_finding_pair :
    let x := String.ofList ['x']
    let y := String.ofList ['y']
    let forbid (name : String) (path : List Char) : PolicyEntry :=
      ⟨name, String.ofList path, .forbidden, none, none⟩
    let entries := [forbid x ['*'], forbid y ['$', '.', 'y']]
    let tree := Node.mapping [] ⟨1, 1, 3, 1⟩
      [(x, .scalar [] ⟨2, 3, 2, 8⟩ .null), (y, .scalar [] ⟨2, 11, 2, 16⟩ .null)]
    let d := Document.ofTree tree
    ∃ p report, Profile.ofPolicy entries = .ok p ∧
      lintWith undisturbed .sequential p (Overrides.empty.set x .info) d = some report ∧
      report.errors + report.warnings + report.infos = 3 := by
  intro x y forbid entries tree d
  let check (name : String) (path : List Char) (steps : List Step) : Check :=
    ⟨name, .error, none, ⟨String.ofList path, steps⟩, .forbidden⟩
  let p : Profile := ⟨[(check x ['*'] [.any]).toRule, (check y ['$', '.', 'y'] [.key y]).toRule]⟩
  have hfirst : (forbid x ['*']).compile = .ok (check x ['*'] [.any]) := by
    simp only [PolicyEntry.compile, forbid, Selector.read, Text.trim, String.toList_ofList]
    rfl
  have hsecond : (forbid y ['$', '.', 'y']).compile = .ok (check y ['$', '.', 'y'] [.key y]) := by
    simp only [PolicyEntry.compile, forbid, Selector.read, Text.trim, String.toList_ofList]
    rfl
  have hp : Profile.ofPolicy entries = .ok p := by
    simp only [Profile.ofPolicy, Profile.extend, entries, hfirst, hsecond]
    simp only [Profile.register, Text.isBlankText, check, Check.toRule, x, y, String.toList_ofList]
    rfl
  have hkeys : d.root.Unrepeated := by
    have hne : x ≠ y := by decide
    simp [d, tree, Document.ofTree, Node.place, Node.placeEntries, Node.Unrepeated, Node.preorder,
      Node.preorderEntries, Node.keys, hne]
  obtain ⟨-, report, -, hlint, -, -, -, -, hcounts, -⟩ :=
    lint_reports_every_finding hp hkeys (Overrides.empty.set x .info) .sequential
  refine ⟨p, report, hp, hlint, hcounts.trans ?_⟩
  rfl

end DocLint
