import DocLint.Check
import DocLint.Proofs.Failure
import DocLint.Proofs.Selector

/-!
# Proofs: what checks have to say is about nodes

Each note of a check is about a node at which a branch of its selector ends, or about a child of a node
that it finds. So every finding has the path and the span of a node of the document, and where no mapping
repeats a key no two findings of a check have the same path.
-/

namespace DocLint

/-- The nodes that notes are about. -/
def noteNodes (notes : List Note) : List Node := notes.map (·.1)

/-! ## Judging nodes one by one -/

/-- Notes that a judgement gives are about nodes that belong to the node judged. -/
def AboutNodes (judge : Node → Except String (List Note)) (belonging : Node → List Node) : Prop :=
  ∀ n notes, judge n = .ok notes → (noteNodes notes).Sublist (belonging n)

theorem judgeEach_sublist {judge : Node → Except String (List Note)} {belonging : Node → List Node}
    (h : AboutNodes judge belonging) {nodes : List Node} {notes : List Note}
    (hnotes : judgeEach judge nodes = .ok notes) :
    (noteNodes notes).Sublist (nodes.flatMap belonging) := by
  have hflatten : ((nodes.map judge).filterMap Except.toOption).flatten = notes := by
    unfold judgeEach at hnotes
    dsimp only at hnotes
    split at hnotes
    · cases hnotes
    · exact Except.ok.inj hnotes
  rw [← hflatten]
  clear hflatten hnotes
  induction nodes with
  | nil => simp [noteNodes]
  | cons n r ih =>
    cases hj : judge n with
    | error e =>
      simp only [List.map_cons, hj, List.filterMap_cons, Except.toOption, List.flatMap_cons]
      exact ih.trans (List.sublist_append_right _ _)
    | ok v =>
      simp only [List.map_cons, hj, List.filterMap_cons, Except.toOption, List.flatMap_cons, List.flatten_cons,
        noteNodes, List.map_append]
      exact (h n v hj).append ih

/-- Notes made of the members of a list one by one are about the nodes that belong to the members. -/
theorem filterMap_sublist {α : Type} {node : α → Node} {g : α → Option Note}
    (h : ∀ a note, g a = some note → note.1 = node a) (xs : List α) :
    (noteNodes (xs.filterMap g)).Sublist (xs.map node) := by
  induction xs with
  | nil => simp [noteNodes]
  | cons x r ih =>
    cases hx : g x with
    | none =>
      rw [List.filterMap_cons_none hx, List.map_cons]
      exact ih.cons _
    | some note =>
      rw [List.filterMap_cons_some hx, noteNodes, List.map_cons, List.map_cons, h x note hx]
      exact ih.cons_cons _

/-! ## The families -/

theorem requiredNote_node (c : Option Condition) (x : Selected) (note : Note) (h : requiredNote c x = some note) :
    note.1 = x.node := by
  cases x with
  | missing parent e =>
    cases h
    rfl
  | found n =>
    simp only [requiredNote] at h
    split at h
    · split at h <;> cases h
      rfl
    · cases h

theorem forbiddenNote_node (x : Selected) (note : Note) (h : forbiddenNote x = some note) :
    note.1 = x.node := by
  cases x with
  | missing parent e => cases h
  | found n =>
    cases h
    rfl

theorem typeNote_node (expected : Expected) (n : Node) (note : Note) (h : typeNote expected n = some note) :
    note.1 = n := by
  unfold typeNote at h
  split at h <;> cases h
  rfl

theorem patternNote_node (p : Pattern) (n : Node) (v : Scalar) (note : Note)
    (h : patternNote p n v = some note) : note.1 = n := by
  unfold patternNote at h
  split at h
  · split at h <;> cases h
    rfl
  · cases h
    rfl

theorem aboutNodes_pattern (p : Pattern) : AboutNodes (patternJudge p) fun n => [n] := by
  intro n notes h
  cases hv : n.value? with
  | none => simp [patternJudge, hv] at h
  | some v =>
    simp only [patternJudge, hv, Except.ok.injEq] at h
    subst h
    cases hnote : patternNote p n v with
    | none => simp [noteNodes]
    | some note => simp [noteNodes, patternNote_node p n v note hnote]

theorem outOfOrder_sublist (order : List String) (top : Option (Nat × String)) (labelled : List (String × Node)) :
    (noteNodes (Ranking.outOfOrder order top labelled)).Sublist (labelled.map (·.2)) := by
  fun_induction Ranking.outOfOrder order top labelled with
  | case1 => simp [noteNodes]
  | case2 top label n r _ ih => exact ih.cons _
  | case3 label n r k _ ih => exact ih.cons _
  | case4 label n r k _ best previous _ ih => exact ih.cons_cons _
  | case5 label n r k _ best previous _ ih => exact ih.cons _

theorem labelled_sublist {labelKey : Option String} {n : Node} {labelled : List (String × Node)}
    (h : Ranking.labelled? labelKey n = some labelled) : (labelled.map (·.2)).Sublist n.children := by
  cases n with
  | scalar p s v => cases h
  | mapping p s entries =>
    cases h
    exact List.Sublist.refl _
  | sequence p s items =>
    cases h
    induction items with
    | nil => exact List.Sublist.slnil
    | cons n r ih =>
      cases hl : Ranking.itemLabel? labelKey n with
      | none =>
        rw [List.filterMap_cons_none (by simp [hl])]
        exact ih.cons _
      | some l =>
        rw [List.filterMap_cons_some (b := (l, n)) (by simp [hl])]
        exact ih.cons_cons _

theorem aboutNodes_order (labels : List String) (labelKey : Option String) :
    AboutNodes (Ranking.judge labels labelKey) Node.children := by
  intro n notes h
  cases hl : Ranking.labelled? labelKey n with
  | none => simp [Ranking.judge, hl] at h
  | some labelled =>
    simp only [Ranking.judge, hl, Except.ok.injEq] at h
    subst h
    exact (outOfOrder_sublist labels none labelled).trans (labelled_sublist hl)

theorem foundNodes_eq_ok {selected : List Selected} {nodes : List Node} (h : foundNodes selected = .ok nodes) :
    nodes = Selected.nodes selected := by
  unfold foundNodes at h
  split at h
  · cases h
  · exact (Except.ok.inj h).symm

theorem nodes_sublist (selected : List Selected) :
    (Selected.nodes selected).Sublist (selected.map Selected.node) := by
  induction selected with
  | nil => exact List.Sublist.slnil
  | cons x r ih =>
    cases x with
    | found n => exact ih.cons_cons _
    | missing parent e => exact ih.cons _

/-- The notes of a family are about the ends of branches or about children of nodes found. -/
theorem Family.judge_sublist {f : Family} {selected : List Selected} {notes : List Note}
    (h : f.judge selected = .ok notes) :
    (noteNodes notes).Sublist (selected.map Selected.node) ∨
      (noteNodes notes).Sublist ((Selected.nodes selected).flatMap Node.children) := by
  cases f with
  | required c =>
    cases h
    exact Or.inl (filterMap_sublist (requiredNote_node c) selected)
  | forbidden =>
    cases h
    exact Or.inl (filterMap_sublist forbiddenNote_node selected)
  | pattern p =>
    obtain ⟨nodes, hnodes, hjudge⟩ := bind_eq_ok_iff.mp h
    cases foundNodes_eq_ok hnodes
    have hsub := judgeEach_sublist (aboutNodes_pattern p) hjudge
    rw [List.flatMap_singleton', ] at hsub
    exact Or.inl (hsub.trans (nodes_sublist selected))
  | order labels labelKey =>
    obtain ⟨nodes, hnodes, hjudge⟩ := bind_eq_ok_iff.mp h
    cases foundNodes_eq_ok hnodes
    exact Or.inr (judgeEach_sublist (aboutNodes_order labels labelKey) hjudge)
  | type expected =>
    obtain ⟨nodes, hnodes, rfl⟩ := map_eq_ok_iff.mp h
    cases foundNodes_eq_ok hnodes
    have hsub : (noteNodes ((Selected.nodes selected).filterMap (typeNote expected))).Sublist
        ((Selected.nodes selected).map id) := filterMap_sublist (typeNote_node expected) _
    rw [List.map_id] at hsub
    exact Or.inl (hsub.trans (nodes_sublist selected))

/-! ## Notes are about distinct nodes of the document -/

/-- The paths of some nodes are distinct. -/
def DistinctPaths (nodes : List Node) : Prop := (nodes.map Node.path).Nodup

theorem DistinctPaths.sublist {a b : List Node} (h : DistinctPaths b) (hab : a.Sublist b) : DistinctPaths a :=
  List.Nodup.sublist (hab.map _) h

/-- Children of nodes at distinct paths are at distinct paths. -/
theorem distinctPaths_children {root : Node} (hplaced : root.Placed) (hkeys : root.Unrepeated)
    {nodes : List Node} (hmem : ∀ n ∈ nodes, n ∈ root.preorder) (h : DistinctPaths nodes) :
    DistinctPaths (nodes.flatMap Node.children) := by
  have hchild : ∀ n ∈ nodes, ∀ c ∈ n.children, c.path.dropLast = n.path := by
    intro n hn c hc
    rw [Node.children_eq_map_branches] at hc
    obtain ⟨b, hb, rfl⟩ := List.mem_map.mp hc
    rw [hplaced n (hmem n hn) b hb, Path.child, List.dropLast_concat]
  -- A child's path without its last segment is its parent's, so no two parents share a child's path.
  rw [DistinctPaths, List.map_flatMap, List.nodup_flatMap]
  refine ⟨fun n hn => ?_, ?_⟩
  · have hpairs := Node.pairwise_children (hplaced.of_mem (hmem n hn)) (hkeys n (hmem n hn))
    refine List.pairwise_map.mpr (hpairs.imp fun {c d} hcd heq => ?_)
    exact hcd c.path (List.prefix_refl _) (heq ▸ List.prefix_refl _)
  · refine (List.pairwise_map.mp h).imp_of_mem fun {n m} hn hm hne p hpn hpm => hne ?_
    obtain ⟨c, hc, rfl⟩ := List.mem_map.mp hpn
    obtain ⟨d, hd, hcd⟩ := List.mem_map.mp hpm
    rw [← hchild n hn c hc, ← hchild m hm d hd, hcd]

theorem mem_nodes_preorder {root : Node} {steps : List Step} :
    ∀ n ∈ Selected.nodes (root.select steps), n ∈ root.preorder := by
  intro n hn
  obtain ⟨x, hx, rfl⟩ := List.mem_map.mp ((nodes_sublist _).subset hn)
  exact root.node_mem_preorder_of_select steps x hx

/-- Every note of a family is about a node of the document. -/
theorem Family.mem_preorder_of_judge {f : Family} {s : Selector} {root : Node} {notes : List Note}
    (h : f.judge (s.select root) = .ok notes) : ∀ note ∈ notes, note.1 ∈ root.preorder := by
  intro note hnote
  have hmem : note.1 ∈ noteNodes notes := List.mem_map_of_mem hnote
  rcases Family.judge_sublist h with hsub | hsub
  · obtain ⟨x, hx, hnode⟩ := List.mem_map.mp (hsub.subset hmem)
    exact hnode ▸ root.node_mem_preorder_of_select s.steps x hx
  · obtain ⟨n, hn, hc⟩ := List.mem_flatMap.mp (hsub.subset hmem)
    exact Node.mem_preorder_trans (Node.mem_preorder_of_child hc (Node.self_mem_preorder _)) (mem_nodes_preorder n hn)

/-- Where no key is repeated, the notes of a family are about nodes at distinct paths. -/
theorem Family.distinctPaths_of_judge {f : Family} {s : Selector} {root : Node} (hplaced : root.Placed)
    (hkeys : root.Unrepeated) {notes : List Note} (h : f.judge (s.select root) = .ok notes) :
    DistinctPaths (noteNodes notes) := by
  have hends : DistinctPaths ((s.select root).map Selected.node) := by
    rw [DistinctPaths, List.map_map]
    exact (Node.paths_of_select hplaced hkeys s.steps).1
  rcases Family.judge_sublist h with hsub | hsub
  · exact hends.sublist hsub
  · exact (distinctPaths_children hplaced hkeys mem_nodes_preorder (hends.sublist (nodes_sublist _))).sublist hsub

/-! ## Findings -/

/-- The findings of an outcome, none where the rule does not apply or breaks down. -/
def Outcome.found : Outcome → List Finding
  | .findings fs => fs
  | _ => []

/-- The findings of a check are its notes, each at the node that it is about. -/
theorem Check.exists_notes (c : Check) (root : Node) :
    (∃ reason, c.evaluate root = .inapplicable reason) ∨
      ∃ notes, c.family.judge (c.selector.select root) = .ok notes ∧
        c.evaluate root = .findings (notes.map c.finding) := by
  rw [Check.evaluate]
  cases h : c.family.judge (c.selector.select root) with
  | ok notes => exact Or.inr ⟨notes, rfl, rfl⟩
  | error reason => exact Or.inl ⟨reason, rfl⟩

/-- Every finding of a check has its name and is at a node of the document. -/
theorem Check.finding_at_node {c : Check} {root : Node} {f : Finding} (h : f ∈ (c.evaluate root).found) :
    f.rule = c.name ∧ ∃ n ∈ root.preorder, f.path = n.path ∧ f.span = n.span := by
  rcases c.exists_notes root with ⟨reason, hr⟩ | ⟨notes, hnotes, hf⟩
  · rw [hr] at h
    cases h
  · rw [hf, Outcome.found] at h
    obtain ⟨note, hnote, rfl⟩ := List.mem_map.mp h
    exact ⟨rfl, note.1, Family.mem_preorder_of_judge hnotes note hnote, rfl, rfl⟩

/-- Where no key is repeated, the findings of a check have distinct paths. -/
theorem Check.nodup_paths (c : Check) {root : Node} (hplaced : root.Placed) (hkeys : root.Unrepeated) :
    ((c.evaluate root).found.map (·.path)).Nodup := by
  rcases c.exists_notes root with ⟨reason, hr⟩ | ⟨notes, hnotes, hf⟩
  · rw [hr]
    exact List.nodup_nil
  · have hpaths : (notes.map c.finding).map (·.path) = (noteNodes notes).map Node.path := by
      simp only [noteNodes, List.map_map]
      rfl
    rw [hf, Outcome.found, hpaths]
    exact Family.distinctPaths_of_judge hplaced hkeys hnotes

end DocLint
