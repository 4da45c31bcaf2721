import DocLint.Proofs.Document.Position
import DocLint.Proofs.Run
import DocLint.Proofs.Spanless

/-!
# Proofs: the layout of a text

Two texts of the same tree, one laid out differently, give reports that differ in spans only. Checks do not
look at spans; the order of reports does, but in every layout the nodes start in the order of the document.
So once its spans are erased a report is the one list that is strictly in the order of the document, by
rule and by message, and has the findings of the tree without spans as its members.
-/

namespace DocLint

open DocLint.Text

/-! ## The order of findings without spans -/

/-- Where the nodes of a document have the paths in their order, the finding stands before the other. -/
def Ahead (paths : List Path) (f g : Finding) : Prop :=
  paths.idxOf f.path < paths.idxOf g.path ∨ (f.path = g.path ∧ Finding.Before f g)

section Ahead

variable {paths : List Path}

instance : Std.Irrefl (Ahead paths) where
  irrefl f h := by
    rcases h with h | ⟨-, h⟩
    · exact Nat.lt_irrefl _ h
    · exact Std.Irrefl.irrefl f h

instance : Std.Antisymm (Ahead paths) where
  antisymm f g hfg hgf := by
    rcases hfg with hfg | ⟨hpath, hfg⟩
    · rcases hgf with hgf | ⟨hpath, -⟩
      · exact absurd hfg (Nat.lt_asymm hgf)
      · rw [hpath] at hfg
        exact absurd hfg (Nat.lt_irrefl _)
    · rcases hgf with hgf | ⟨-, hgf⟩
      · rw [hpath] at hgf
        exact absurd hgf (Nat.lt_irrefl _)
      · exact Std.Antisymm.antisymm f g hfg hgf

end Ahead

/-- At one span, findings are told apart by something else. -/
theorem Finding.compare_spanless {f g : Finding} (h : f.span = g.span) :
    Finding.compare f.spanless g.spanless = Finding.compare f g := by
  simp [Finding.compare, compareLex, compareOn, Finding.spanless, h]

/-- The finding is at a node of the document. -/
def Finding.AtNode (d : Document) (f : Finding) : Prop :=
  ∃ n ∈ d.nodes, f.path = n.path ∧ f.span = n.span

/-- Where nodes start one after the other, findings at them are in the order of the nodes. -/
theorem ahead_of_before {d : Document} (hstarts : d.nodes.Pairwise fun m k => Earlier m.span.first k.span.first)
    (hpaths : (d.nodes.map Node.path).Nodup) {f g : Finding} (hf : f.AtNode d) (hg : g.AtNode d)
    (h : Finding.Before f g) : Ahead (d.nodes.map Node.path) f.spanless g.spanless := by
  obtain ⟨n, hn, hfpath, hfspan⟩ := hf
  obtain ⟨m, hm, hgpath, hgspan⟩ := hg
  obtain ⟨i, hi, rfl⟩ := List.getElem_of_mem hn
  obtain ⟨j, hj, rfl⟩ := List.getElem_of_mem hm
  have hindex : ∀ k (hk : k < d.nodes.length), (d.nodes.map Node.path).idxOf d.nodes[k].path = k := by
    intro k hk
    have hget := hpaths.idxOf_getElem k (by rwa [List.length_map])
    rwa [List.getElem_map] at hget
  rcases Nat.lt_trichotomy i j with hlt | rfl | hgt
  · left
    show (d.nodes.map Node.path).idxOf f.path < (d.nodes.map Node.path).idxOf g.path
    rw [hfpath, hgpath, hindex i hi, hindex j hj]
    exact hlt
  · right
    refine ⟨hfpath.trans hgpath.symm, ?_⟩
    unfold Finding.Before
    rw [Finding.compare_spanless (hfspan.trans hgspan.symm)]
    exact h
  · have hearlier := List.pairwise_iff_getElem.mp hstarts j i hj hi hgt
    rw [← hfspan, ← hgspan] at hearlier
    exact absurd hearlier (Finding.not_earlier_of_before h)

/-! ## Reports without spans -/

namespace Report

theorem count_spanless (s : Severity) (fs : List Finding) : count s (fs.map Finding.spanless) = count s fs := by
  rw [count, count, List.countP_map]
  rfl

/-- Overriding a severity and erasing a span do not get into each other's way. -/
theorem mem_findings_spanless {f : Finding} {fs : List Finding} {o : Overrides} {n : Nat} :
    f ∈ (aggregate fs o n).findings.map Finding.spanless ↔
      ∃ g ∈ fs.map Finding.spanless, f = { g with severity := (o.get? g.rule).getD g.severity } := by
  constructor
  · intro hf
    obtain ⟨x, hx, rfl⟩ := List.mem_map.mp hf
    obtain ⟨g, hg, rfl⟩ := mem_findings_aggregate.mp hx
    exact ⟨g.spanless, List.mem_map_of_mem hg, rfl⟩
  · rintro ⟨x, hx, rfl⟩
    obtain ⟨g, hg, rfl⟩ := List.mem_map.mp hx
    exact List.mem_map.mpr ⟨_, mem_findings_aggregate.mpr ⟨g, hg, rfl⟩, rfl⟩

/-- A report on findings at the nodes of a document is in the order of the document. -/
theorem pairwise_findings_spanless {d : Document}
    (hstarts : d.nodes.Pairwise fun m k => Earlier m.span.first k.span.first)
    (hpaths : (d.nodes.map Node.path).Nodup) {fs : List Finding} (hfs : ∀ f ∈ fs, f.AtNode d) (o : Overrides)
    (n : Nat) : ((aggregate fs o n).findings.map Finding.spanless).Pairwise (Ahead (d.nodes.map Node.path)) := by
  have hnode : ∀ f ∈ (aggregate fs o n).findings, f.AtNode d := by
    intro f hf
    obtain ⟨g, hg, rfl⟩ := mem_findings_aggregate.mp hf
    exact hfs g hg
  refine List.pairwise_map.mpr ((pairwise_findings_aggregate fs o n).imp_of_mem ?_)
  intro f g hf hg hfg
  exact ahead_of_before hstarts hpaths (hnode f hf) (hnode g hg) hfg

end Report

/-! ## Two layouts -/

/-- Where no key is repeated, the nodes of a document that was read have distinct paths. -/
theorem nodup_paths_of_read {source : String} {d : Document} (h : Document.read source = .ok d)
    (hkeys : d.root.Unrepeated) : (d.nodes.map Node.path).Nodup := by
  have hnodes : d.nodes.Nodup := by
    refine (pairwise_nodes_of_read h).imp ?_
    rintro m k hearlier rfl
    exact earlier_iff.mp hearlier (NotAfter.refl _)
  refine hnodes.map_on ?_
  intro m hm k hk hpath
  obtain ⟨-, tree, -, -, rfl⟩ := exists_tree_of_read h
  have hm := Document.resolve_path tree hkeys m hm
  have hk := Document.resolve_path tree hkeys k hk
  rw [hpath, hk] at hm
  exact (Except.ok.inj hm).symm

theorem paths_spanless (d : Document) : d.root.spanless.preorder.map Node.path = d.nodes.map Node.path := by
  rw [Node.preorder_spanless, List.map_map]
  exact List.map_congr_left fun n _ => n.path_spanless

theorem found_spanless {entries : List PolicyEntry} {p : Profile} (hp : Profile.ofPolicy entries = .ok p)
    (root : Node) : p.found root.spanless = (p.found root).map Finding.spanless := by
  rw [Profile.found, Profile.found, List.map_flatMap]
  refine List.flatMap_congr fun r hr => ?_
  obtain ⟨e, c, -, rfl⟩ := Profile.exists_check_of_mem hp hr
  exact c.found_spanless root

theorem found_at_node {entries : List PolicyEntry} {p : Profile} (hp : Profile.ofPolicy entries = .ok p)
    (d : Document) : ∀ f ∈ p.found d.root, f.AtNode d := by
  intro f hf
  obtain ⟨r, hr, hf⟩ := List.mem_flatMap.mp hf
  obtain ⟨e, c, -, rfl⟩ := Profile.exists_check_of_mem hp hr
  exact (Check.finding_at_node hf).2

/-- Two texts of the same tree, in which no mapping repeats a key, give the same report but for the spans, in the same
order, with the same numbers and the same verdict. -/
theorem lint_ignores_layout {source source' : String} {d e : Document} (hd : Document.read source = .ok d)
    (he : Document.read source' = .ok e) (hsame : d.root.spanless = e.root.spanless) (hkeys : d.root.Unrepeated)
    {entries : List PolicyEntry} {p : Profile} (hp : Profile.ofPolicy entries = .ok p) (o : Overrides)
    (mode mode' : Mode) :
    ∃ report report',
      lintWith undisturbed mode p o d = some report ∧ lintWith undisturbed mode' p o e = some report' ∧
      report.findings.map Finding.spanless = report'.findings.map Finding.spanless ∧
      report.errors = report'.errors ∧ report.warnings = report'.warnings ∧ report.infos = report'.infos ∧
      report.passed = report'.passed ∧ report.rulesEvaluated = report'.rulesEvaluated := by
  have hkeys' : e.root.Unrepeated := Node.unrepeated_spanless.mp (hsame ▸ Node.unrepeated_spanless.mpr hkeys)
  have hpaths : d.nodes.map Node.path = e.nodes.map Node.path := by
    rw [← paths_spanless, ← paths_spanless e, hsame]
  have hfindings : (Report.aggregate (p.found d.root) o p.size).findings.map Finding.spanless =
      (Report.aggregate (p.found e.root) o p.size).findings.map Finding.spanless := by
    have hsorted := Report.pairwise_findings_spanless (pairwise_nodes_of_read hd) (nodup_paths_of_read hd hkeys)
      (found_at_node hp d) o p.size
    have hsorted' := Report.pairwise_findings_spanless (pairwise_nodes_of_read he) (nodup_paths_of_read he hkeys')
      (found_at_node hp e) o p.size
    rw [← hpaths] at hsorted'
    apply List.Pairwise.eq_of_mem_iff hsorted hsorted'
    intro f
    rw [Report.mem_findings_spanless, Report.mem_findings_spanless, ← found_spanless hp, ← found_spanless hp, hsame]
  have hcount : ∀ s, Report.count s (Report.aggregate (p.found d.root) o p.size).findings =
      Report.count s (Report.aggregate (p.found e.root) o p.size).findings := by
    intro s
    rw [← Report.count_spanless, hfindings, Report.count_spanless]
  obtain ⟨-, tree, -, -, rfl⟩ := exists_tree_of_read hd
  obtain ⟨-, tree', -, -, rfl⟩ := exists_tree_of_read he
  refine ⟨_, _, lintWith_eq_found hp hkeys o mode, lintWith_eq_found hp hkeys' o mode', hfindings, hcount .error,
    hcount .warning, hcount .info, ?_, rfl⟩
  exact congrArg (· == 0) (hcount .error)

/-- A list of two items on one line and on two lines, where a rule forbids all items. -/
theorem lint_ignores_layout_newline :
    let x := String.ofList ['x']
    let entry : PolicyEntry := ⟨x, String.ofList ['*'], .forbidden, none, none⟩
    let source := String.ofList ['[', '1', ',', '2', ']']
    let source' := String.ofList ['[', '\n', '1', ',', ' ', '2', ']']
    let list (s t u : Span) : Document :=
      ⟨.sequence [] s [.scalar [.index 0] t (.number (.integer 1)), .scalar [.index 1] u (.number (.integer 2))]⟩
    let d := list ⟨1, 1, 1, 5⟩ ⟨1, 2, 1, 2⟩ ⟨1, 4, 1, 4⟩
    let e := list ⟨1, 1, 2, 5⟩ ⟨2, 1, 2, 1⟩ ⟨2, 4, 2, 4⟩
    Document.read source = .ok d ∧ Document.read source' = .ok e ∧
      ∃ p report report', Profile.ofPolicy [entry] = .ok p ∧
        lintWith undisturbed .sequential p .empty d = some report ∧
        lintWith undisturbed .sequential p .empty e = some report' ∧
        report.findings.map Finding.spanless = report'.findings.map Finding.spanless ∧
        report.errors = report'.errors := by
  intro x entry source source' list d e
  let c : Check := ⟨x, .error, none, ⟨String.ofList ['*'], [.any]⟩, .forbidden⟩
  have hd : Document.read source = .ok d := by
    simp only [Document.read, source, String.toList_ofList]
    rfl
  have he : Document.read source' = .ok e := by
    simp only [Document.read, source', String.toList_ofList]
    rfl
  have hkeys : d.root.Unrepeated := by
    simp [d, list, Node.Unrepeated, Node.preorder, Node.preorderItems, Node.keys]
  have hcompile : entry.compile = .ok c := by
    simp only [PolicyEntry.compile, entry, Selector.read, Text.trim, String.toList_ofList]
    rfl
  have hp : Profile.ofPolicy [entry] = .ok ⟨[c.toRule]⟩ := by
    simp only [Profile.ofPolicy, Profile.extend, hcompile]
    simp only [Profile.register, Text.isBlankText, c, Check.toRule, x, String.toList_ofList]
    rfl
  obtain ⟨report, report', hlint, hlint', hfindings, herrors, -⟩ :=
    lint_ignores_layout hd he rfl hkeys hp .empty .sequential .sequential
  exact ⟨hd, he, ⟨[c.toRule]⟩, report, report', hp, hlint, hlint', hfindings, herrors⟩

end DocLint
