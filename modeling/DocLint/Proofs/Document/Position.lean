import DocLint.Proofs.Document.Order
import DocLint.Proofs.Report

/-!
# Proofs: the order of reports is the order of the document

Findings are compared by where they start first. The nodes of a document that was read start one after the
other, so findings at different nodes are reported in the order of their nodes, whatever else they say.
-/

namespace DocLint

open DocLint.Text

/-! ## Where nodes lie -/

theorem one_le_place (a : List Char) : 1 ≤ (place a).1 ∧ 1 ≤ (place a).2 :=
  ⟨Nat.le_add_right 1 _, Nat.le_add_right 1 _⟩

/-- The span of a node is that of a stretch of the text. -/
theorem exists_stretch_of_read {source : String} {d : Document} (h : Document.read source = .ok d) :
    ∀ n ∈ d.nodes, ∃ a b, n.span = stretch a b := by
  intro n hn
  have hfrom := fromText_of_read h n hn
  unfold FromText at hfrom
  split at hfrom
  · obtain ⟨a, r, k, g, g', t, -, hspan, -, -⟩ := hfrom
    exact ⟨_, _, hspan⟩
  · obtain ⟨a, r, t, -, hspan, -⟩ := hfrom
    exact ⟨_, _, hspan⟩

/-- Lines and columns count from one. -/
theorem one_le_span_of_read {source : String} {d : Document} (h : Document.read source = .ok d) :
    ∀ n ∈ d.nodes,
      1 ≤ n.span.startLine ∧ 1 ≤ n.span.startColumn ∧ 1 ≤ n.span.endLine ∧ 1 ≤ n.span.endColumn := by
  intro n hn
  obtain ⟨a, b, hspan⟩ := exists_stretch_of_read h n hn
  obtain ⟨hstartLine, hstartColumn⟩ := one_le_place a
  obtain ⟨hendLine, hendColumn⟩ := one_le_place (a ++ b).dropLast
  rw [hspan]
  exact ⟨hstartLine, hstartColumn, hendLine, hendColumn⟩

/-! ## How findings are ordered -/

namespace Finding

/-- A finding stands before those that start later. -/
theorem before_of_earlier {f g : Finding} (h : Earlier f.span.first g.span.first) : Before f g := by
  unfold Before Finding.compare
  rcases h with hline | ⟨hline, hcolumn⟩
  · have hlt : Ord.compare f.span.startLine g.span.startLine = .lt := Nat.compare_eq_lt.mpr hline
    simp [compareLex, compareOn, hlt]
  · have heq : f.span.startLine = g.span.startLine := hline
    have hlt : Ord.compare f.span.startColumn g.span.startColumn = .lt := Nat.compare_eq_lt.mpr hcolumn
    simp [compareLex, compareOn, heq, hlt]

/-- No finding stands before one that starts earlier. -/
theorem not_earlier_of_before {f g : Finding} (h : Before f g) : ¬ Earlier g.span.first f.span.first := by
  intro hearlier
  have heq : f = g := Std.Antisymm.antisymm f g h (before_of_earlier hearlier)
  exact Std.Irrefl.irrefl g (heq ▸ h)

end Finding

/-- The finding is at the node of the document with the given number. -/
def Finding.AtIndex (d : Document) (f : Finding) (i : Nat) : Prop :=
  ∃ n, d.nodes[i]? = some n ∧ f.span = n.span

/-- Where nodes start one after the other, a finding at an earlier node stands before a finding at a later one. -/
theorem before_of_index_lt {d : Document} (hstarts : d.nodes.Pairwise fun m k => Earlier m.span.first k.span.first)
    {f g : Finding} {i j : Nat} (hf : f.AtIndex d i) (hg : g.AtIndex d j) (hij : i < j) : Finding.Before f g := by
  obtain ⟨m, hm, hfspan⟩ := hf
  obtain ⟨k, hk, hgspan⟩ := hg
  obtain ⟨hi, rfl⟩ := List.getElem?_eq_some_iff.mp hm
  obtain ⟨hj, rfl⟩ := List.getElem?_eq_some_iff.mp hk
  apply Finding.before_of_earlier
  rw [hfspan, hgspan]
  exact List.pairwise_iff_getElem.mp hstarts i j hi hj hij

/-- The nodes of a document that was read lie in the text in their order: none ends before it starts, children lie
inside their parent and behind its start, siblings lie one behind the other, and the starts grow along the document. So
findings at different nodes are reported in the order of the nodes. -/
theorem nodes_follow_text {source : String} {d : Document} (h : Document.read source = .ok d) :
    (∀ n ∈ d.nodes,
      1 ≤ n.span.startLine ∧ 1 ≤ n.span.startColumn ∧ 1 ≤ n.span.endLine ∧ 1 ≤ n.span.endColumn ∧
        NotAfter n.span.first n.span.last) ∧
    (∀ n ∈ d.nodes, ∀ c ∈ n.children, Earlier n.span.first c.span.first ∧ NotAfter c.span.last n.span.last) ∧
    (∀ n ∈ d.nodes, n.children.Pairwise fun b c => Earlier b.span.last c.span.first) ∧
    (d.nodes.Pairwise fun m k => Earlier m.span.first k.span.first) ∧
    (d.nodes.map fun n => n.span.first).Nodup ∧
    (∀ f g i j, f.AtIndex d i → g.AtIndex d j → i < j → Finding.Before f g) ∧
    ∀ fs o n, (Report.aggregate fs o n).findings.Pairwise fun f g =>
      ∀ i j, f.AtIndex d i → g.AtIndex d j → i ≤ j := by
  have hnested := nested_of_read h
  have hstarts := pairwise_nodes_of_read h
  refine ⟨fun n hn => ?_, fun n hn c hc => ?_, fun n hn => ?_, hstarts, ?_, fun f g i j hf hg => ?_,
    fun fs o n => ?_⟩
  · obtain ⟨hstartLine, hstartColumn, hendLine, hendColumn⟩ := one_le_span_of_read h n hn
    exact ⟨hstartLine, hstartColumn, hendLine, hendColumn, (hnested n hn).ordered⟩
  · exact (hnested n hn).inside c.span (List.mem_map_of_mem hc)
  · exact List.pairwise_map.mp (hnested n hn).apart
  · refine List.pairwise_map.mpr (hstarts.imp ?_)
    intro m k hearlier heq
    rw [heq] at hearlier
    exact earlier_iff.mp hearlier (NotAfter.refl _)
  · exact before_of_index_lt hstarts hf hg
  · refine (Report.pairwise_findings_aggregate fs o n).imp ?_
    intro f g hfg i j hf hg
    by_contra hij
    have hgf := before_of_index_lt hstarts hg hf (Nat.lt_of_not_le hij)
    exact Std.Irrefl.irrefl f (Trans.trans hfg hgf)

/-- Four nodes on two lines, and a finding at each of the last two. -/
theorem nodes_follow_text_lines :
    let source := String.ofList ['\x7b', '"', 'a', '"', ':', '\n', '[', '\x7b', '\x7d', ',', '1', ']', '\x7d']
    let a : Segment := .key (String.ofList ['a'])
    let inner : Node := .mapping [a, .index 0] ⟨2, 2, 2, 3⟩ []
    let one : Node := .scalar [a, .index 1] ⟨2, 5, 2, 5⟩ (.number (.integer 1))
    let list : Node := .sequence [a] ⟨1, 2, 2, 6⟩ [inner, one]
    let d : Document := ⟨.mapping [] ⟨1, 1, 2, 7⟩ [(String.ofList ['a'], list)]⟩
    let f : Finding := ⟨String.ofList ['z'], .info, String.ofList ['z'], [a, .index 0], ⟨2, 2, 2, 3⟩⟩
    let g : Finding := ⟨String.ofList ['a'], .error, String.ofList ['a'], [a, .index 1], ⟨2, 5, 2, 5⟩⟩
    Document.read source = .ok d ∧ d.nodes = [d.root, list, inner, one] ∧
      Earlier inner.span.last one.span.first ∧ NotAfter one.span.last list.span.last ∧ Finding.Before f g := by
  intro source a inner one list d f g
  have hread : Document.read source = .ok d := by
    simp only [Document.read, source, String.toList_ofList]
    rfl
  have hnodes : d.nodes = [d.root, list, inner, one] := rfl
  have hlist : list ∈ d.nodes := by simp [hnodes]
  obtain ⟨-, hinside, hapart, -, -, hbefore, -⟩ := nodes_follow_text hread
  have hone : NotAfter one.span.last list.span.last := (hinside list hlist one (by simp [list, Node.children])).2
  have hpair : [inner, one].Pairwise fun b c => Earlier b.span.last c.span.first := hapart list hlist
  exact ⟨hread, hnodes, List.rel_of_pairwise_cons hpair List.mem_cons_self, hone,
    hbefore f g 2 3 ⟨inner, rfl, rfl⟩ ⟨one, rfl, rfl⟩ (by decide)⟩

end DocLint
