import DocLint.Proofs.Path

/-!
# Proofs: the places that a selector reaches

What `walk` finds is told without following the selector. A node is found if its path matches the steps one
by one, and something is missing at a node if its path matches the first steps and the next one is no wildcard and
leads to none of its children.

Both are proved by induction on the steps, at any node: the nodes below it are those below its branches, and the first
segment of the path that leads on from it is that of a branch (`below_cons_iff`).
-/

namespace DocLint

/-- A step matches a segment: a key or an index matches itself, and a wildcard matches everything. -/
def Step.Matches : Step → Segment → Prop
  | .key k, s => s = .key k
  | .index i, s => s = .index i
  | .any, _ => True

theorem Selector.matches_stepOf_iff {s t : Segment} : (stepOf s).Matches t ↔ t = s := by
  cases s <;> rfl

theorem Selector.exists_stepOf {s : Step} (hs : s ≠ .any) : ∃ t, s = stepOf t := by
  cases s with
  | key k => exact ⟨.key k, rfl⟩
  | index i => exact ⟨.index i, rfl⟩
  | any => exact absurd rfl hs

namespace Node

open Selector

/-! ## Nodes below a node -/

/-- The node lies at the path `p` below `n`. -/
def Below (n : Node) (p : Path) (x : Node) : Prop :=
  x ∈ n.preorder ∧ x.path = n.path ++ p

theorem below_nil_iff {n x : Node} (hplaced : n.Placed) : n.Below [] x ↔ x = n := by
  constructor
  · rintro ⟨hx, hpath⟩
    rw [List.append_nil] at hpath
    rcases mem_preorder_iff.mp hx with rfl | ⟨c, hc, hx⟩
    · rfl
    · -- A node further down has a longer path.
      have hlong := hplaced.length_path_lt hc
      have hprefix := ((hplaced.of_child hc).path_prefix_of_mem hx).length_le
      rw [hpath] at hprefix
      omega
  · rintro rfl
    exact ⟨x.self_mem_preorder, (List.append_nil _).symm⟩

theorem below_cons_iff {n x : Node} {s : Segment} {p : Path} (hplaced : n.Placed) :
    n.Below (s :: p) x ↔ ∃ c, (s, c) ∈ n.branches ∧ c.Below p x := by
  constructor
  · rintro ⟨hx, hpath⟩
    rcases mem_preorder_iff.mp hx with rfl | ⟨c, hc, hx⟩
    · have hlength := congrArg List.length hpath
      simp at hlength
    · have hprefix := (hplaced.of_child hc).path_prefix_of_mem hx
      rw [children_eq_map_branches] at hc
      obtain ⟨⟨t, c⟩, hb, rfl⟩ := List.mem_map.mp hc
      have hc := hplaced n n.self_mem_preorder _ hb
      obtain ⟨q, hq⟩ := hprefix
      have heq : n.path ++ t :: q = n.path ++ s :: p := by
        rw [← hpath, ← hq, hc, Path.child, List.append_assoc, List.singleton_append]
      cases List.append_cancel_left heq
      exact ⟨c, hb, hx, hq.symm⟩
  · rintro ⟨c, hb, hx, hpath⟩
    refine ⟨mem_preorder_of_child (mem_children_of_branch hb) hx, ?_⟩
    rw [hpath, hplaced n n.self_mem_preorder _ hb, Path.child, List.append_assoc, List.singleton_append]

theorem below_append_iff {n x : Node} {p q : Path} (hplaced : n.Placed) :
    n.Below (p ++ q) x ↔ ∃ m, n.Below p m ∧ m.Below q x := by
  induction p generalizing n with
  | nil =>
    rw [List.nil_append]
    constructor
    · intro hx
      exact ⟨n, (below_nil_iff hplaced).mpr rfl, hx⟩
    · rintro ⟨m, hm, hx⟩
      rwa [(below_nil_iff hplaced).mp hm] at hx
  | cons s p ih =>
    rw [List.cons_append, below_cons_iff hplaced]
    constructor
    · rintro ⟨c, hb, hx⟩
      obtain ⟨m, hm, hx⟩ := (ih (hplaced.of_child (mem_children_of_branch hb))).mp hx
      exact ⟨m, (below_cons_iff hplaced).mpr ⟨c, hb, hm⟩, hx⟩
    · rintro ⟨m, hm, hx⟩
      obtain ⟨c, hb, hm⟩ := (below_cons_iff hplaced).mp hm
      exact ⟨c, hb, (ih (hplaced.of_child (mem_children_of_branch hb))).mpr ⟨m, hm, hx⟩⟩

/-! ## One step -/

theorem get_eq_ok_iff_mem {n c : Node} {s : Segment} (hkeys : n.keys.Nodup) :
    n.get? s = .ok c ↔ (s, c) ∈ n.branches :=
  get_eq_ok_iff.trans ⟨mem_branches_of_child, fun h => child_of_mem_branches (b := (s, c)) hkeys h⟩

theorem select_stepOf_of_ok {n c : Node} {t : Segment} (h : n.get? t = .ok c) (r : List Step) :
    n.select (stepOf t :: r) = c.select r := by
  cases t <;> simp [stepOf, select, h]

theorem select_stepOf_of_error {n : Node} {t : Segment} {e : NotFound} (h : n.get? t = .error e) (r : List Step) :
    n.select (stepOf t :: r) = [.missing n e] := by
  cases t <;> simp [stepOf, select, h]

/-- A branch of a selector goes on at a child whose segment the first step matches, or it ends because the step leads
to no child. -/
theorem mem_select_cons_iff {n : Node} (hkeys : n.keys.Nodup) {s : Step} {r : List Step} {y : Selected} :
    y ∈ n.select (s :: r) ↔
      (∃ t c, (t, c) ∈ n.branches ∧ s.Matches t ∧ y ∈ c.select r) ∨
        ∃ t e, s = stepOf t ∧ n.get? t = .error e ∧ y = .missing n e := by
  by_cases hs : s = .any
  · subst hs
    rw [select, List.mem_flatMap, children_eq_map_branches]
    constructor
    · rintro ⟨c, hc, hy⟩
      obtain ⟨⟨t, c⟩, hb, rfl⟩ := List.mem_map.mp hc
      exact .inl ⟨t, c, hb, trivial, hy⟩
    · rintro (⟨t, c, hb, -, hy⟩ | ⟨t, e, ht, -, -⟩)
      · exact ⟨c, List.mem_map.mpr ⟨(t, c), hb, rfl⟩, hy⟩
      · cases t <;> cases ht
  · obtain ⟨t, rfl⟩ := exists_stepOf hs
    constructor
    · intro hy
      cases hget : n.get? t with
      | ok c =>
        rw [select_stepOf_of_ok hget] at hy
        exact .inl ⟨t, c, (get_eq_ok_iff_mem hkeys).mp hget, matches_stepOf_iff.mpr rfl, hy⟩
      | error e =>
        rw [select_stepOf_of_error hget] at hy
        exact .inr ⟨t, e, rfl, hget, List.mem_singleton.mp hy⟩
    · rintro (⟨u, c, hb, hu, hy⟩ | ⟨u, e, hu, hget, rfl⟩)
      · obtain rfl := matches_stepOf_iff.mp hu
        rw [select_stepOf_of_ok ((get_eq_ok_iff_mem hkeys).mpr hb)]
        exact hy
      · cases stepOf_injective hu
        rw [select_stepOf_of_error hget]
        exact List.mem_singleton_self _

/-! ## All steps -/

theorem found_mem_select_iff {n x : Node} (hplaced : n.Placed) (hkeys : n.Unrepeated) (steps : List Step) :
    Selected.found x ∈ n.select steps ↔ ∃ p, List.Forall₂ Step.Matches steps p ∧ n.Below p x := by
  induction steps generalizing n with
  | nil =>
    rw [select, List.mem_singleton, Selected.found.injEq]
    constructor
    · intro hx
      exact ⟨[], .nil, (below_nil_iff hplaced).mpr hx⟩
    · rintro ⟨p, hp, hx⟩
      cases hp
      exact (below_nil_iff hplaced).mp hx
  | cons s r ih =>
    have hnext : ∀ {t c}, (t, c) ∈ n.branches → (Selected.found x ∈ c.select r ↔
        ∃ p, List.Forall₂ Step.Matches r p ∧ c.Below p x) := fun hb =>
      ih (hplaced.of_child (mem_children_of_branch hb)) (hkeys.of_child (mem_children_of_branch hb))
    rw [mem_select_cons_iff (hkeys n n.self_mem_preorder)]
    constructor
    · rintro (⟨t, c, hb, ht, hx⟩ | ⟨t, e, -, -, hx⟩)
      · obtain ⟨p, hp, hbelow⟩ := (hnext hb).mp hx
        exact ⟨t :: p, .cons ht hp, (below_cons_iff hplaced).mpr ⟨c, hb, hbelow⟩⟩
      · cases hx
    · rintro ⟨p, hp, hbelow⟩
      cases hp with
      | cons ht hp =>
        obtain ⟨c, hb, hbelow⟩ := (below_cons_iff hplaced).mp hbelow
        exact .inl ⟨_, c, hb, ht, (hnext hb).mpr ⟨_, hp, hbelow⟩⟩

theorem missing_mem_select_iff {n q : Node} {e : NotFound} (hplaced : n.Placed) (hkeys : n.Unrepeated)
    (steps : List Step) :
    Selected.missing q e ∈ n.select steps ↔
      ∃ before t after p, steps = before ++ stepOf t :: after ∧ List.Forall₂ Step.Matches before p ∧
        n.Below p q ∧ q.get? t = .error e := by
  induction steps generalizing n with
  | nil => simp [select]
  | cons s r ih =>
    have hnext : ∀ {t c}, (t, c) ∈ n.branches → (Selected.missing q e ∈ c.select r ↔
        ∃ before t after p, r = before ++ stepOf t :: after ∧ List.Forall₂ Step.Matches before p ∧
          c.Below p q ∧ q.get? t = .error e) := fun hb =>
      ih (hplaced.of_child (mem_children_of_branch hb)) (hkeys.of_child (mem_children_of_branch hb))
    rw [mem_select_cons_iff (hkeys n n.self_mem_preorder)]
    constructor
    · rintro (⟨t, c, hb, ht, hq⟩ | ⟨t, e', rfl, hget, hq⟩)
      · obtain ⟨before, u, after, p, rfl, hp, hbelow, hget⟩ := (hnext hb).mp hq
        exact ⟨s :: before, u, after, t :: p, rfl, .cons ht hp,
          (below_cons_iff hplaced).mpr ⟨c, hb, hbelow⟩, hget⟩
      · cases hq
        exact ⟨[], t, r, [], rfl, .nil, (below_nil_iff hplaced).mpr rfl, hget⟩
    · rintro ⟨before, u, after, p, hsteps, hp, hbelow, hget⟩
      cases hp with
      | nil =>
        cases hsteps
        obtain rfl := (below_nil_iff hplaced).mp hbelow
        exact .inr ⟨u, e, rfl, hget, rfl⟩
      | cons ht hp =>
        cases hsteps
        obtain ⟨c, hb, hbelow⟩ := (below_cons_iff hplaced).mp hbelow
        exact .inl ⟨_, c, hb, ht, (hnext hb).mpr ⟨_, u, after, _, rfl, hp, hbelow, hget⟩⟩

/-! ## The order of what is found -/

theorem flatMap_sublist {α β : Type} {f g : α → List β} {xs : List α} (h : ∀ x ∈ xs, (f x).Sublist (g x)) :
    (xs.flatMap f).Sublist (xs.flatMap g) := by
  induction xs with
  | nil => exact List.Sublist.slnil
  | cons x xs ih =>
    rw [List.flatMap_cons, List.flatMap_cons]
    exact (h x List.mem_cons_self).append (ih fun y hy => h y (List.mem_cons_of_mem x hy))

/-- Branches end in the order of the document. -/
theorem select_sublist_preorder (n : Node) (steps : List Step) :
    ((n.select steps).map Selected.node).Sublist n.preorder := by
  refine select_induction (P := fun n _ xs => (xs.map Selected.node).Sublist n.preorder) ?_ ?_ ?_ ?_ n steps
  · intro n
    rw [preorder_eq_cons]
    exact (List.nil_sublist _).cons_cons n
  · intro n r ih
    rw [List.map_flatMap, preorder_eq_cons]
    exact (flatMap_sublist ih).cons n
  · intro n s r c hc ih
    have hbelow : c.preorder.Sublist (n.children.flatMap preorder) :=
      List.sublist_flatten_of_mem (List.mem_map_of_mem hc)
    rw [preorder_eq_cons]
    exact (ih.trans hbelow).cons n
  · intro n s r e
    rw [preorder_eq_cons]
    exact (List.nil_sublist _).cons_cons n

/-- The steps up to a wildcard match the path of a node without children, so no branch ends there. -/
theorem not_mem_select_of_childless {n q : Node} (hplaced : n.Placed) (hkeys : n.Unrepeated) {before after : List Step}
    {p : Path} (hp : List.Forall₂ Step.Matches before p) (hq : n.Below p q) (hchildren : q.children = []) :
    ∀ x ∈ n.select (before ++ .any :: after), ¬ q.path <+: x.node.path := by
  intro x hx hprefix
  have hbelow : x.node ∈ n.preorder := n.node_mem_preorder_of_select _ x hx
  obtain ⟨r, hr⟩ := hprefix
  have hnode : x.node = q := by
    have hpath : n.Below (p ++ r) x.node := ⟨hbelow, by rw [← hr, hq.2, List.append_assoc]⟩
    obtain ⟨m, hm, hxm⟩ := (below_append_iff hplaced).mp hpath
    have hmq : m = q := List.inj_on_of_nodup_map (nodup_paths_preorder hplaced hkeys) hm.1 hq.1 (hm.2.trans hq.2.symm)
    rcases mem_preorder_iff.mp hxm.1 with heq | ⟨c, hc, -⟩
    · rw [heq, hmq]
    · rw [hmq, hchildren] at hc
      cases hc
  -- A branch that ends at the node itself has followed as many steps as the node is deep, and the next is the wildcard.
  have hdepth := hp.length_eq
  cases x with
  | found m =>
    obtain ⟨p', hp', hm⟩ := (found_mem_select_iff hplaced hkeys _).mp hx
    have hsame : p' = p := List.append_cancel_left (hm.2.symm.trans ((congrArg path hnode).trans hq.2))
    have hlength := hp'.length_eq
    rw [hsame, List.length_append, List.length_cons] at hlength
    omega
  | missing m e =>
    obtain ⟨before', t, after', p', hsteps, hp', hm, -⟩ := (missing_mem_select_iff hplaced hkeys _).mp hx
    have hsame : p' = p := List.append_cancel_left (hm.2.symm.trans ((congrArg path hnode).trans hq.2))
    have hlength : before.length = before'.length := by rw [hdepth, hp'.length_eq, hsame]
    have hstep := (List.append_inj hsteps hlength).2
    cases t <;> cases hstep

/-! ## Missing children -/

theorem path_ne_of_absent {n c : Node} {t : Segment} {a : Absence} (hplaced : n.Placed) (hkeys : n.keys.Nodup)
    (h : n.child? t = .error a) (hc : c ∈ n.children) : c.path ≠ n.path ++ [t] := by
  intro hpath
  rw [children_eq_map_branches] at hc
  obtain ⟨⟨u, c⟩, hb, rfl⟩ := List.mem_map.mp hc
  have hu : n.path ++ [u] = n.path ++ [t] := (hplaced n n.self_mem_preorder _ hb).symm.trans hpath
  cases List.append_cancel_left hu
  have hchild := child_of_mem_branches hkeys hb
  rw [h] at hchild
  cases hchild

/-- A segment whose path is that of no child leads to none. -/
theorem exists_child_error {n : Node} {t : Segment} (hplaced : n.Placed)
    (h : ∀ c ∈ n.children, c.path ≠ n.path ++ [t]) : ∃ a, n.child? t = .error a := by
  cases hchild : n.child? t with
  | error a => exact ⟨a, rfl⟩
  | ok c =>
    have hb := mem_branches_of_child hchild
    have hpath : c.path = n.path ++ [t] := hplaced n n.self_mem_preorder _ hb
    exact absurd hpath (h c (mem_children_of_branch hb))

end Node

/-- Where no mapping repeats a key, a selector finds just the nodes whose paths match its steps one by one, and misses
just the children that a next step, other than a wildcard, does not have at a node whose path matches the steps before
it. Each of them comes once, in the order of the document, and nothing comes from below a wildcard at a node without
children. -/
theorem select_reaches_matches (tree : Node) (hkeys : (Document.ofTree tree).root.Unrepeated) (s : Selector) :
    let d := Document.ofTree tree
    let selected := s.select d.root
    (selected.map Selected.node).Sublist d.nodes ∧ (d.nodes.map Node.path).Nodup ∧
    (selected.map fun x => x.node.path).Nodup ∧
    (∀ x, .found x ∈ selected ↔ x ∈ d.nodes ∧ List.Forall₂ Step.Matches s.steps x.path) ∧
    (∀ n e, .missing n e ∈ selected ↔
      n ∈ d.nodes ∧ ∃ before t after, s.steps = before ++ Selector.stepOf t :: after ∧
        List.Forall₂ Step.Matches before n.path ∧ (∀ c ∈ n.children, c.path ≠ n.path ++ [t]) ∧
        e.path = n.path ++ [t] ∧ n.child? t = .error e.reason) ∧
    (∀ n ∈ d.nodes, ∀ before t after, s.steps = before ++ Selector.stepOf t :: after →
      List.Forall₂ Step.Matches before n.path → (∀ c ∈ n.children, c.path ≠ n.path ++ [t]) →
      ∃ e, .missing n e ∈ selected ∧ e.path = n.path ++ [t]) ∧
    ∀ n ∈ d.nodes, n.children = [] → ∀ before after, s.steps = before ++ .any :: after →
      List.Forall₂ Step.Matches before n.path → ∀ x ∈ selected, ¬ n.path <+: x.node.path := by
  intro d selected
  have hplaced : d.root.Placed := Document.placed_ofTree tree
  have hbelow : ∀ {p x}, d.root.Below p x ↔ x ∈ d.nodes ∧ x.path = p := by
    intro p x
    rw [Node.Below, Document.path_root_ofTree, List.nil_append]
    rfl
  refine ⟨d.root.select_sublist_preorder s.steps, Node.nodup_paths_preorder hplaced hkeys,
    (Node.paths_of_select hplaced hkeys s.steps).1, ?_, ?_, ?_, ?_⟩
  · intro x
    rw [show selected = d.root.select s.steps from rfl, Node.found_mem_select_iff hplaced hkeys]
    constructor
    · rintro ⟨p, hp, hx⟩
      obtain ⟨hmem, rfl⟩ := hbelow.mp hx
      exact ⟨hmem, hp⟩
    · rintro ⟨hmem, hp⟩
      exact ⟨x.path, hp, hbelow.mpr ⟨hmem, rfl⟩⟩
  · intro n e
    rw [show selected = d.root.select s.steps from rfl, Node.missing_mem_select_iff hplaced hkeys]
    constructor
    · rintro ⟨before, t, after, p, hsteps, hp, hn, hget⟩
      obtain ⟨hmem, rfl⟩ := hbelow.mp hn
      obtain ⟨hchild, hpath⟩ := Node.get_eq_error_iff.mp hget
      have habsent : ∀ c ∈ n.children, c.path ≠ n.path ++ [t] := fun c hc =>
        Node.path_ne_of_absent (hplaced.of_mem hmem) (hkeys n hmem) hchild hc
      exact ⟨hmem, before, t, after, hsteps, hp, habsent, hpath, hchild⟩
    · rintro ⟨hmem, before, t, after, hsteps, hp, -, hpath, hchild⟩
      exact ⟨before, t, after, n.path, hsteps, hp, hbelow.mpr ⟨hmem, rfl⟩, Node.get_eq_error_iff.mpr ⟨hchild, hpath⟩⟩
  · intro n hmem before t after hsteps hp habsent
    obtain ⟨a, hchild⟩ := Node.exists_child_error (hplaced.of_mem hmem) habsent
    have hget : n.get? t = .error ⟨n.path ++ [t], a⟩ := Node.get_eq_error_iff.mpr ⟨hchild, rfl⟩
    refine ⟨⟨n.path ++ [t], a⟩, ?_, rfl⟩
    exact (Node.missing_mem_select_iff hplaced hkeys s.steps).mpr
      ⟨before, t, after, n.path, hsteps, hp, hbelow.mpr ⟨hmem, rfl⟩, hget⟩
  · intro n hn hchildren before after hsteps hp x hx
    have hselect : x ∈ d.root.select (before ++ .any :: after) := by
      rw [← hsteps]
      exact hx
    exact Node.not_mem_select_of_childless hplaced hkeys hp (hbelow.mpr ⟨hn, rfl⟩) hchildren x hselect

/-- The titles of three sections, of which the first has one, the second has none and the third is no mapping. -/
theorem select_reaches_matches_sections :
    let a := String.ofList ['a']
    let t := String.ofList ['t']
    let leaf := Node.scalar [] Span.start .null
    let tree := Node.mapping [] Span.start
      [(a, .sequence [] Span.start [.mapping [] Span.start [(t, leaf)], .mapping [] Span.start [], leaf])]
    let d := Document.ofTree tree
    let s : Selector := ⟨String.ofList ['a', '.', '*', '.', 't'], [.key a, .any, .key t]⟩
    let title := Node.scalar [.key a, .index 0, .key t] Span.start .null
    let bare := Node.mapping [.key a, .index 1] Span.start []
    let odd := Node.scalar [.key a, .index 2] Span.start .null
    d.root.Unrepeated ∧ .found title ∈ s.select d.root ∧
      .missing bare ⟨[.key a, .index 1, .key t], .noKey t⟩ ∈ s.select d.root ∧
      .missing odd ⟨[.key a, .index 2, .key t], .childOfScalar⟩ ∈ s.select d.root := by
  intro a t leaf tree d s title bare odd
  have hkeys : d.root.Unrepeated := by
    simp [d, tree, leaf, Document.ofTree, Node.place, Node.placeEntries, Node.placeItems, Node.Unrepeated,
      Node.preorder, Node.preorderEntries, Node.preorderItems, Node.keys]
  have hnodes : title ∈ d.nodes ∧ bare ∈ d.nodes ∧ odd ∈ d.nodes := by
    simp [d, tree, leaf, title, bare, odd, Document.ofTree, Document.nodes, Node.place, Node.placeEntries,
      Node.placeItems, Node.preorder, Node.preorderEntries, Node.preorderItems, Path.child, Path.root]
  obtain ⟨-, -, -, hfound, hmissing, -⟩ := select_reaches_matches tree hkeys s
  have hprefix : ∀ i, List.Forall₂ Step.Matches [.key a, .any] [.key a, .index i] := fun i =>
    .cons rfl (.cons trivial .nil)
  refine ⟨hkeys, (hfound title).mpr ⟨hnodes.1, .cons rfl (.cons trivial (.cons rfl .nil))⟩, ?_, ?_⟩
  · exact (hmissing bare _).mpr ⟨hnodes.2.1, [.key a, .any], .key t, [], rfl, hprefix 1, by simp [bare, Node.children],
      rfl, rfl⟩
  · exact (hmissing odd _).mpr ⟨hnodes.2.2, [.key a, .any], .key t, [], rfl, hprefix 2, by simp [odd, Node.children],
      rfl, rfl⟩

end DocLint
