import DocLint.Document.Node
import DocLint.Proofs.Failure
import Mathlib.Data.List.Nodup

/-!
# Proofs: paths in a document

A tree whose nodes carry the paths that lead to them is told by its branches: the segment and the child
for every child of a node. Each node of such a tree is found at its path as long as no mapping repeats a
key; where a key is repeated, the first entry is found instead of the later ones.
-/

namespace DocLint.Node

/-- The children of a node with the segments that lead to them, in source order. -/
def branches : Node → List (Segment × Node)
  | scalar .. => []
  | sequence _ _ items => items.zipIdx.map fun e => (.index e.2, e.1)
  | mapping _ _ entries => entries.map fun e => (.key e.1, e.2)

theorem children_eq_map_branches (n : Node) : n.children = n.branches.map (·.2) := by
  cases n with
  | scalar p s v => rfl
  | sequence p s items => simp [children, branches, List.map_map, Function.comp_def]
  | mapping p s entries => simp [children, branches, List.map_map, Function.comp_def]

theorem exists_of_kind_scalar {n : Node} (h : n.kind = .scalar) : ∃ p s v, n = scalar p s v := by
  cases n with
  | scalar p s v => exact ⟨p, s, v, rfl⟩
  | sequence p s items => cases h
  | mapping p s entries => cases h

theorem mem_children_of_branch {n c : Node} {s : Segment} (h : (s, c) ∈ n.branches) : c ∈ n.children := by
  rw [children_eq_map_branches]
  exact List.mem_map_of_mem h

theorem preorderItems_eq_flatMap (items : List Node) : preorderItems items = items.flatMap preorder := by
  induction items with
  | nil => rfl
  | cons n r ih => rw [preorderItems, ih, List.flatMap_cons]

theorem preorderEntries_eq_flatMap (entries : List (String × Node)) :
    preorderEntries entries = (entries.map (·.2)).flatMap preorder := by
  induction entries with
  | nil => rfl
  | cons e r ih => rw [preorderEntries, ih, List.map_cons, List.flatMap_cons]

theorem preorder_eq_cons (n : Node) : n.preorder = n :: n.children.flatMap preorder := by
  cases n with
  | scalar p s v => rfl
  | sequence p s items => rw [preorder, preorderItems_eq_flatMap, children]
  | mapping p s entries => rw [preorder, preorderEntries_eq_flatMap, children]

theorem self_mem_preorder (n : Node) : n ∈ n.preorder := by
  rw [preorder_eq_cons]
  exact List.mem_cons_self

theorem mem_preorder_iff {n m : Node} : m ∈ n.preorder ↔ m = n ∨ ∃ c ∈ n.children, m ∈ c.preorder := by
  rw [preorder_eq_cons, List.mem_cons, List.mem_flatMap]

theorem mem_preorder_of_child {n c m : Node} (hc : c ∈ n.children) (hm : m ∈ c.preorder) : m ∈ n.preorder :=
  mem_preorder_iff.mpr (Or.inr ⟨c, hc, hm⟩)

/-! ## Induction along branches -/

theorem sizeOf_child_lt {n c : Node} (hc : c ∈ n.children) : sizeOf c < sizeOf n := by
  cases n with
  | scalar p s v => cases hc
  | sequence p s items =>
    have h := List.sizeOf_lt_of_mem hc
    simp only [children, sequence.sizeOf_spec] at *
    omega
  | mapping p s entries =>
    obtain ⟨e, he, rfl⟩ := List.mem_map.mp hc
    have h := List.sizeOf_lt_of_mem he
    have he' : sizeOf e = 1 + sizeOf e.1 + sizeOf e.2 := by cases e; simp
    simp only [mapping.sizeOf_spec]
    omega

/-- What holds of a node if it holds of its children holds of every node. -/
theorem children_induction {P : Node → Prop} (step : ∀ n, (∀ c ∈ n.children, P c) → P n) (n : Node) : P n :=
  step n fun c _ => children_induction step c
termination_by sizeOf n
decreasing_by exact sizeOf_child_lt ‹_›

/-- What lies below a node below another one lies below that one. -/
theorem mem_preorder_trans {n m k : Node} (hk : k ∈ m.preorder) (hm : m ∈ n.preorder) : k ∈ n.preorder := by
  induction n using children_induction with
  | step n ih =>
    rcases mem_preorder_iff.mp hm with rfl | ⟨c, hc, hm⟩
    · exact hk
    · exact mem_preorder_of_child hc (ih c hc hm)

/-! ## Placed trees -/

/-- Below the node, every child has the path of its parent followed by its own segment. -/
def Placed (n : Node) : Prop :=
  ∀ m ∈ n.preorder, ∀ b ∈ m.branches, b.2.path = m.path.child b.1

theorem Placed.of_mem {n m : Node} (h : n.Placed) (hm : m ∈ n.preorder) : m.Placed :=
  fun k hk => h k (mem_preorder_trans hk hm)

theorem Placed.of_child {n c : Node} (h : n.Placed) (hc : c ∈ n.children) : c.Placed :=
  h.of_mem (mem_preorder_of_child hc c.self_mem_preorder)

theorem Placed.path_prefix_child {n c : Node} (h : n.Placed) (hc : c ∈ n.children) : n.path <+: c.path := by
  rw [children_eq_map_branches] at hc
  obtain ⟨b, hb, rfl⟩ := List.mem_map.mp hc
  rw [h n n.self_mem_preorder b hb]
  exact List.prefix_append _ _

/-- Every node below has a path that leads through the node. -/
theorem Placed.path_prefix_of_mem {n m : Node} (h : n.Placed) (hm : m ∈ n.preorder) : n.path <+: m.path := by
  revert h
  induction n using children_induction with
  | step n ih =>
    intro h
    rcases mem_preorder_iff.mp hm with rfl | ⟨c, hc, hm⟩
    · exact List.prefix_refl _
    · exact (h.path_prefix_child hc).trans (ih c hc hm (h.of_child hc))

theorem Placed.length_path_lt {n c : Node} (h : n.Placed) (hc : c ∈ n.children) : n.path.length < c.path.length := by
  rw [children_eq_map_branches] at hc
  obtain ⟨b, hb, rfl⟩ := List.mem_map.mp hc
  rw [h n n.self_mem_preorder b hb]
  simp [Path.child]

theorem placeItems_eq_map (p : Path) (i : Nat) (items : List Node) :
    placeItems p i items = (items.zipIdx i).map fun e => e.1.place (p.child (.index e.2)) := by
  induction items generalizing i with
  | nil => rfl
  | cons n r ih => rw [placeItems, ih, List.zipIdx_cons, List.map_cons]

theorem placeEntries_eq_map (p : Path) (entries : List (String × Node)) :
    placeEntries p entries = entries.map fun e => (e.1, e.2.place (p.child (.key e.1))) := by
  induction entries with
  | nil => rfl
  | cons e r ih => rw [placeEntries, ih, List.map_cons]

theorem path_place (n : Node) (p : Path) : (n.place p).path = p := by
  cases n <;> simp [place, path]

/-- Placing a node places each child at its segment. -/
theorem branches_place (n : Node) (p : Path) :
    (n.place p).branches = n.branches.map fun b => (b.1, b.2.place (p.child b.1)) := by
  cases n with
  | scalar q s v => rfl
  | sequence q s items =>
    rw [place, branches, branches, placeItems_eq_map]
    refine List.ext_getElem (by simp) fun i _ _ => ?_
    simp
  | mapping q s entries =>
    simp [place, branches, placeEntries_eq_map, List.map_map, Function.comp_def]

theorem value?_place (n : Node) (p : Path) : (n.place p).value? = n.value? := by
  cases n <;> simp [place, value?]

theorem find?_placeEntries (p : Path) (key : String) (entries : List (String × Node)) :
    find? key (placeEntries p entries) = (find? key entries).map fun c => c.place (p.child (.key key)) := by
  induction entries with
  | nil => rfl
  | cons e r ih =>
    unfold find? at *
    by_cases h : e.1 = key
    · simp [placeEntries, h]
    · simpa [placeEntries, h] using ih

/-- A segment leads to the same child, which is placed at it. -/
theorem child?_place (n : Node) (p : Path) (s : Segment) :
    (n.place p).child? s = (n.child? s).map fun c => c.place (p.child s) := by
  cases n with
  | scalar q sp v => simp [place, child?, Except.map]
  | sequence q sp items =>
    cases s with
    | key key => simp [place, child?, Except.map]
    | index i => cases hi : items[i]? <;> simp [place, child?, placeItems_eq_map, hi, Except.map]
  | mapping q sp entries =>
    cases s with
    | index i => simp [place, child?, Except.map]
    | key key => cases hk : find? key entries <;> simp [place, child?, find?_placeEntries, hk, Except.map]

theorem placed_place (n : Node) : ∀ p, (n.place p).Placed := by
  induction n using children_induction with
  | step n ih =>
    intro p m hm b hb
    rcases mem_preorder_iff.mp hm with rfl | ⟨c, hc, hm⟩
    · rw [branches_place] at hb
      obtain ⟨a, -, rfl⟩ := List.mem_map.mp hb
      rw [path_place, path_place]
    · rw [children_eq_map_branches, branches_place, List.map_map] at hc
      obtain ⟨a, ha, rfl⟩ := List.mem_map.mp hc
      have hchild : a.2 ∈ n.children := by
        rw [children_eq_map_branches]
        exact List.mem_map_of_mem ha
      exact ih a.2 hchild _ m hm b hb

/-! ## Nodes are found at their paths -/

/-- The keys of a mapping, in source order; none for any other node. -/
def keys : Node → List String
  | mapping _ _ entries => entries.map (·.1)
  | _ => []

/-- No mapping of the tree repeats a key. -/
def Unrepeated (n : Node) : Prop :=
  ∀ m ∈ n.preorder, m.keys.Nodup

theorem Unrepeated.of_child {n c : Node} (h : n.Unrepeated) (hc : c ∈ n.children) : c.Unrepeated :=
  fun m hm => h m (mem_preorder_of_child hc hm)

theorem mem_branches_of_child {n c : Node} {s : Segment} (h : n.child? s = .ok c) : (s, c) ∈ n.branches := by
  cases n with
  | scalar p sp v => cases s <;> simp [child?] at h
  | sequence p sp items =>
    cases s with
    | key k => simp [child?] at h
    | index i =>
      cases hi : items[i]? with
      | none => simp [child?, hi] at h
      | some m =>
        simp only [child?, hi, Except.ok.injEq] at h
        subst h
        exact List.mem_map.mpr ⟨(m, i), List.mk_mem_zipIdx_iff_getElem?.mpr hi, rfl⟩
  | mapping p sp entries =>
    cases s with
    | index i => simp [child?] at h
    | key k =>
      cases hf : entries.find? (·.1 = k) with
      | none => simp [child?, find?, hf] at h
      | some e =>
        simp only [child?, find?, hf, Option.map_some, Except.ok.injEq] at h
        have hk : e.1 = k := by simpa using List.find?_some hf
        exact List.mem_map.mpr ⟨e, List.mem_of_find?_eq_some hf, by rw [hk, h]⟩

/-- An entry is the first one under its key if no key is repeated. -/
theorem find_key {entries : List (String × Node)} (h : (entries.map (·.1)).Nodup) {e : String × Node}
    (he : e ∈ entries) : entries.find? (·.1 = e.1) = some e := by
  induction entries with
  | nil => cases he
  | cons a r ih =>
    rw [List.map_cons, List.nodup_cons] at h
    rcases List.mem_cons.mp he with rfl | he
    · simp
    · have hne : a.1 ≠ e.1 := fun heq => h.1 (heq ▸ List.mem_map_of_mem he)
      simpa [hne] using ih h.2 he

/-- Where no key is repeated, every branch is found by its segment. -/
theorem child_of_mem_branches {n : Node} (h : n.keys.Nodup) {b : Segment × Node} (hb : b ∈ n.branches) :
    n.child? b.1 = .ok b.2 := by
  cases n with
  | scalar p s v => cases hb
  | sequence p s items =>
    obtain ⟨⟨c, i⟩, he, rfl⟩ := List.mem_map.mp hb
    have hi : items[i]? = some c := List.mk_mem_zipIdx_iff_getElem?.mp he
    simp [child?, hi]
  | mapping p s entries =>
    obtain ⟨e, he, rfl⟩ := List.mem_map.mp hb
    simp [child?, find?, find_key h he]

/-- The segments of the branches of a node are distinct if its keys are. -/
theorem nodup_segments {n : Node} (h : n.keys.Nodup) : (n.branches.map (·.1)).Nodup := by
  cases n with
  | scalar p s v => simp [branches]
  | sequence p s items =>
    have hsegments : (sequence p s items).branches.map (·.1) = (items.zipIdx.map Prod.snd).map Segment.index := by
      simp only [branches, List.map_map, Function.comp_def]
    rw [hsegments, List.zipIdx_map_snd]
    exact List.Nodup.map (fun i j hij => by cases hij; rfl) List.nodup_range'
  | mapping p s entries =>
    have hsegments : (mapping p s entries).branches.map (·.1) = (mapping p s entries).keys.map Segment.key := by
      simp only [branches, keys, List.map_map, Function.comp_def]
    rw [hsegments]
    exact h.map fun i j hij => by cases hij; rfl

/-- No path leads through two children of a node. -/
theorem pairwise_children {n : Node} (hplaced : n.Placed) (hkeys : n.keys.Nodup) :
    n.children.Pairwise fun c d => ∀ p : Path, c.path <+: p → ¬ d.path <+: p := by
  rw [children_eq_map_branches, List.pairwise_map]
  have hsegments : n.branches.Pairwise fun a b => a.1 ≠ b.1 := List.pairwise_map.mp (nodup_segments hkeys)
  refine hsegments.imp_of_mem fun {a b} ha hb hne p hap hbp => hne ?_
  rw [hplaced n n.self_mem_preorder a ha] at hap
  rw [hplaced n n.self_mem_preorder b hb] at hbp
  have hle := List.prefix_of_prefix_length_le hap hbp (by simp [Path.child])
  simpa [Path.child] using hle.eq_of_length (by simp [Path.child])

/-- Where no key is repeated, no two nodes have the same path. -/
theorem nodup_paths_preorder {n : Node} (hplaced : n.Placed) (hkeys : n.Unrepeated) : (n.preorder.map path).Nodup := by
  revert hplaced hkeys
  induction n using children_induction with
  | step n ih =>
    intro hplaced hkeys
    rw [preorder_eq_cons, List.map_cons, List.nodup_cons, List.map_flatMap]
    constructor
    · intro hmem
      obtain ⟨c, hc, hpath⟩ := List.mem_flatMap.mp hmem
      obtain ⟨m, hm, hmpath⟩ := List.mem_map.mp hpath
      have hlong := hplaced.length_path_lt hc
      have hprefix := ((hplaced.of_child hc).path_prefix_of_mem hm).length_le
      rw [hmpath] at hprefix
      omega
    · refine List.nodup_flatMap.mpr ⟨fun c hc => ih c hc (hplaced.of_child hc) (hkeys.of_child hc), ?_⟩
      refine (pairwise_children hplaced (hkeys n n.self_mem_preorder)).imp_of_mem ?_
      intro c d hc hd hcd p hpc hpd
      obtain ⟨m, hm, rfl⟩ := List.mem_map.mp hpc
      obtain ⟨k, hk, hkm⟩ := List.mem_map.mp hpd
      exact hcd _ ((hplaced.of_child hc).path_prefix_of_mem hm) (hkm ▸ (hplaced.of_child hd).path_prefix_of_mem hk)

theorem get_eq_ok_iff {n c : Node} {s : Segment} : n.get? s = .ok c ↔ n.child? s = .ok c := by
  rw [get?]
  cases n.child? s <;> simp

theorem get_eq_error_iff {n : Node} {t : Segment} {e : NotFound} :
    n.get? t = .error e ↔ n.child? t = .error e.reason ∧ e.path = n.path ++ [t] := by
  obtain ⟨path, reason⟩ := e
  rw [get?]
  cases n.child? t with
  | ok c => simp
  | error a => simp [Path.child, and_comm, eq_comm]

theorem mem_children_of_get {n c : Node} {s : Segment} (h : n.get? s = .ok c) : c ∈ n.children := by
  rw [children_eq_map_branches]
  exact List.mem_map.mpr ⟨_, mem_branches_of_child (get_eq_ok_iff.mp h), rfl⟩

theorem resolve_append (n : Node) (p q : Path) : n.resolve (p ++ q) = (n.resolve p).bind fun m => m.resolve q := by
  induction p generalizing n with
  | nil => rfl
  | cons s p ih =>
    rw [List.cons_append, resolve, resolve]
    cases n.get? s with
    | ok c => exact ih c
    | error e => rfl

/-- From what a path leads to, one segment more leads to the child under it. -/
theorem resolve_child {n m : Node} {p : Path} (h : n.resolve p = .ok m) (s : Segment) :
    n.resolve (p.child s) = m.get? s := by
  rw [Path.child, resolve_append, h]
  change m.resolve [s] = m.get? s
  rw [resolve]
  cases m.get? s with
  | ok c => rfl
  | error e => rfl

/-- Every node below is found by following its path on. -/
theorem exists_resolve (n : Node) : n.Placed → n.Unrepeated → ∀ m ∈ n.preorder,
    ∃ p, m.path = n.path ++ p ∧ n.resolve p = .ok m := by
  induction n using children_induction with
  | step n ih =>
    intro hplaced hkeys m hm
    rcases mem_preorder_iff.mp hm with rfl | ⟨c, hc, hm⟩
    · exact ⟨[], by simp, rfl⟩
    · obtain ⟨p, hp, hresolve⟩ := ih c hc (hplaced.of_child hc) (hkeys.of_child hc) m hm
      rw [children_eq_map_branches] at hc
      obtain ⟨b, hb, rfl⟩ := List.mem_map.mp hc
      have hget : n.get? b.1 = .ok b.2 :=
        get_eq_ok_iff.mpr (child_of_mem_branches (hkeys n n.self_mem_preorder) hb)
      refine ⟨b.1 :: p, ?_, ?_⟩
      · rw [hp, hplaced n n.self_mem_preorder b hb, Path.child, List.append_assoc, List.singleton_append]
      · rw [resolve, hget]
        exact hresolve

end DocLint.Node

namespace DocLint.Document

theorem placed_ofTree (n : Node) : (ofTree n).root.Placed := n.placed_place Path.root

theorem path_root_ofTree (n : Node) : (ofTree n).root.path = [] := n.path_place Path.root

/-- Where no key is repeated, every node of a document is what its path leads to. -/
theorem resolve_path (n : Node) (h : (ofTree n).root.Unrepeated) :
    ∀ m ∈ (ofTree n).nodes, (ofTree n).resolve m.path = .ok m := by
  intro m hm
  obtain ⟨p, hp, hresolve⟩ := Node.exists_resolve _ (placed_ofTree n) h m hm
  rw [path_root_ofTree, List.nil_append] at hp
  rw [hp, Document.resolve, hresolve]

end DocLint.Document
