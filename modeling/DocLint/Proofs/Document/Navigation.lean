import DocLint.Proofs.Document.Tree

/-!
# Proofs: following paths from any node

To follow a path from a node of a document (`DocumentNode::resolve`) is to follow it from the root behind the node's
own path. What is found has the path that was followed from the root, and a failure names the shortest beginning of
it that leads nowhere: the node reached last is what the failure is told by, and that node has the path that was
followed so far.
-/

namespace DocLint

namespace Node

/-! ## Where a path leads -/

theorem path_of_get {n c : Node} {s : Segment} (hplaced : n.Placed) (h : n.get? s = .ok c) :
    c.path = n.path.child s := by
  have hbranch : (s, c) ∈ n.branches := mem_branches_of_child (get_eq_ok_iff.mp h)
  exact hplaced n n.self_mem_preorder (s, c) hbranch

theorem below_of_resolve {n m : Node} {p : Path} (hplaced : n.Placed) (h : n.resolve p = .ok m) :
    m ∈ n.preorder ∧ m.path = n.path ++ p := by
  induction p generalizing n with
  | nil =>
    cases h
    exact ⟨m.self_mem_preorder, (List.append_nil m.path).symm⟩
  | cons s p ih =>
    cases hget : n.get? s with
    | error e => simp [resolve, hget] at h
    | ok c =>
      have hrest : c.resolve p = .ok m := by simpa [resolve, hget] using h
      have hc : c ∈ n.children := mem_children_of_get hget
      obtain ⟨hm, hpath⟩ := ih (hplaced.of_child hc) hrest
      refine ⟨mem_preorder_of_child hc hm, ?_⟩
      rw [hpath, path_of_get hplaced hget, Path.child, List.append_assoc, List.singleton_append]

/-! ## Where a path fails -/

theorem exists_resolve_of_prefix {n m : Node} {b q : Path} (hb : b <+: q) (h : n.resolve q = .ok m) :
    ∃ k, n.resolve b = .ok k := by
  obtain ⟨r, rfl⟩ := hb
  rw [resolve_append] at h
  cases hfront : n.resolve b with
  | ok k => exact ⟨k, rfl⟩
  | error e =>
    rw [hfront] at h
    cases h

/-- A path fails at a segment under which the node reached last has no child. -/
theorem exists_step_of_resolve_error {n : Node} {q : Path} {e : NotFound} (h : n.resolve q = .error e) :
    ∃ before s after m, q = before ++ s :: after ∧ n.resolve before = .ok m ∧ m.get? s = .error e := by
  induction q generalizing n with
  | nil => cases h
  | cons s q ih =>
    cases hget : n.get? s with
    | error e' =>
      have heq : e' = e := by simpa [resolve, hget] using h
      exact ⟨[], s, q, n, rfl, rfl, heq ▸ hget⟩
    | ok c =>
      have hrest : c.resolve q = .error e := by simpa [resolve, hget] using h
      obtain ⟨before, t, after, m, rfl, hm, ht⟩ := ih hrest
      refine ⟨s :: before, t, after, m, rfl, ?_, ht⟩
      rw [resolve, hget]
      exact hm

/-- The failure of a path is that of its shortest beginning that leads nowhere, and names it. -/
theorem shortest_of_resolve_error {n : Node} {q : Path} {e : NotFound} (hplaced : n.Placed)
    (h : n.resolve q = .error e) :
    ∃ r, r <+: q ∧ n.resolve r = .error e ∧ e.path = n.path ++ r ∧
      ∀ b, b <+: q → b.length < r.length → ∃ k, n.resolve b = .ok k := by
  obtain ⟨before, s, after, m, rfl, hm, hs⟩ := exists_step_of_resolve_error h
  have hpath : m.path = n.path ++ before := (below_of_resolve hplaced hm).2
  have hnames : e.path = m.path ++ [s] := (get_eq_error_iff.mp hs).2
  refine ⟨before.child s, ⟨after, by simp [Path.child]⟩, ?_, ?_, ?_⟩
  · rw [resolve_child hm, hs]
  · rw [hnames, hpath, Path.child, List.append_assoc]
  · intro b hb hlength
    rw [Path.child, List.length_append, List.length_singleton] at hlength
    have hbefore : before <+: before ++ s :: after := List.prefix_append _ _
    have hfront : b <+: before := List.prefix_of_prefix_length_le hb hbefore (by omega)
    exact exists_resolve_of_prefix hfront hm

end Node

/-- Whatever tree a document is made of, a node that a path leads to has that path, and to follow a path from it is to
follow both from the root: what is found has both paths, one behind the other, and a failure names the node's path and
behind it the shortest beginning of the other that leads nowhere. Where no mapping repeats a key, every node is what its
path leads to, and no two have the same path. -/
theorem resolve_from_any_node (tree : Node) :
    let d := Document.ofTree tree
    (∀ p x, d.resolve p = .ok x →
      x.path = p ∧
      ∀ q,
        (∀ y, x.resolve q = .ok y → y.path = p ++ q ∧ d.resolve (p ++ q) = .ok y) ∧
        (∀ e, x.resolve q = .error e →
          d.resolve (p ++ q) = .error e ∧
          ∃ r, r <+: q ∧ e.path = p ++ r ∧ x.resolve r = .error e ∧
            ∀ b, b <+: q → b.length < r.length → ∃ y, x.resolve b = .ok y)) ∧
    (d.root.Unrepeated →
      (∀ x ∈ d.nodes, d.resolve x.path = .ok x) ∧ (d.nodes.map Node.path).Nodup) := by
  intro d
  have hplaced : d.root.Placed := Document.placed_ofTree tree
  constructor
  · intro p x hx
    obtain ⟨hmem, hpath⟩ := Node.below_of_resolve hplaced hx
    rw [Document.path_root_ofTree, List.nil_append] at hpath
    have hbelow : x.Placed := hplaced.of_mem hmem
    have hwhole : ∀ q, d.resolve (p ++ q) = x.resolve q := by
      intro q
      have hfront : d.root.resolve p = .ok x := hx
      rw [Document.resolve, Node.resolve_append, hfront]
      rfl
    refine ⟨hpath, fun q => ⟨?_, ?_⟩⟩
    · intro y hy
      have hypath : y.path = x.path ++ q := (Node.below_of_resolve hbelow hy).2
      exact ⟨hpath ▸ hypath, (hwhole q).trans hy⟩
    · intro e he
      obtain ⟨r, hr, hfails, hnames, hshortest⟩ := Node.shortest_of_resolve_error hbelow he
      exact ⟨(hwhole q).trans he, r, hr, hpath ▸ hnames, hfails, hshortest⟩
  · intro hkeys
    exact ⟨Document.resolve_path tree hkeys, Node.nodup_paths_preorder hplaced hkeys⟩

/-- A tree with wrong paths, and an item that a sequence in it does not have. -/
theorem resolve_from_any_node_items :
    let a := String.ofList ['a']
    let wrong : Path := [.index 7]
    let tree := Node.mapping wrong Span.start [(a, .sequence wrong Span.start [.scalar wrong Span.start .null])]
    let d := Document.ofTree tree
    let item := Node.scalar [.key a, .index 0] Span.start .null
    let x := Node.sequence [.key a] Span.start [item]
    let e : NotFound := ⟨[.key a, .index 1], .outOfBounds 1 1⟩
    d.resolve [.key a] = .ok x ∧ x.resolve [.index 0] = .ok item ∧ x.resolve [.index 1, .key a] = .error e ∧
      d.root.Unrepeated ∧
      d.resolve [.key a, .index 0] = .ok item ∧ d.resolve [.key a, .index 1, .key a] = .error e ∧
      (d.nodes.map Node.path).Nodup := by
  intro a wrong tree d item x e
  have hx : d.resolve [.key a] = .ok x := by
    simp [d, tree, x, item, Document.ofTree, Document.resolve, Node.place, Node.placeEntries, Node.placeItems,
      Node.resolve, Node.get?, Node.child?, Node.find?, Path.child, Path.root]
  have hitem : x.resolve [.index 0] = .ok item := rfl
  have he : x.resolve [.index 1, .key a] = .error e := rfl
  have hkeys : d.root.Unrepeated := by
    simp [d, tree, Document.ofTree, Node.place, Node.placeEntries, Node.placeItems, Node.Unrepeated, Node.preorder,
      Node.preorderEntries, Node.preorderItems, Node.keys]
  obtain ⟨hfollow, hwhole⟩ := resolve_from_any_node tree
  obtain ⟨-, hrest⟩ := hfollow [.key a] x hx
  exact ⟨hx, hitem, he, hkeys, ((hrest _).1 item hitem).2, ((hrest _).2 e he).1, (hwhole hkeys).2⟩

end DocLint
