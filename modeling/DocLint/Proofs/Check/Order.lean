import DocLint.Proofs.Check.Ranking
import DocLint.Proofs.Check.Verdict

/-!
# Proofs: orders

An order (`eval_ordering`) has findings about the children out of place in each container that a selector finds. It
has none about a container whose ranks do not decrease, nor about what is left of any container once the children
with findings are deleted: two children that are left are in order, for otherwise the later one would have been out
of place before.
-/

namespace DocLint

namespace Ranking

/-! ## Deleting children -/

/-- The members of a list that are not at the given places. -/
def dropPlaces {α : Type} (gone : List Nat) (xs : List α) : List α :=
  (xs.zipIdx.filter fun e => e.2 ∉ gone).map (·.1)

theorem map_dropPlaces {α β : Type} (f : α → β) (gone : List Nat) (xs : List α) :
    (dropPlaces gone xs).map f = dropPlaces gone (xs.map f) := by
  rw [dropPlaces, dropPlaces, List.zipIdx_map, List.filter_map, List.map_map, List.map_map]
  rfl

theorem pairwise_dropPlaces {α : Type} {R : α → α → Prop} {gone : List Nat} {xs : List α}
    (h : ∀ i j x y, i < j → i ∉ gone → j ∉ gone → xs[i]? = some x → xs[j]? = some y → R x y) :
    (dropPlaces gone xs).Pairwise R := by
  rw [dropPlaces, List.pairwise_map, List.pairwise_filter, List.pairwise_iff_getElem]
  intro i j hi hj hij hkeep hkeep'
  rw [List.length_zipIdx] at hi hj
  rw [List.getElem_zipIdx] at hkeep hkeep' ⊢
  rw [List.getElem_zipIdx]
  simp only [Nat.zero_add, decide_eq_true_eq] at hkeep hkeep'
  exact h i j _ _ hij hkeep hkeep' (List.getElem?_eq_getElem hi) (List.getElem?_eq_getElem hj)

end Ranking

/-- The container without the children at the given places. -/
def Node.without (gone : List Nat) : Node → Node
  | scalar p s v => scalar p s v
  | sequence p s items => sequence p s (Ranking.dropPlaces gone items)
  | mapping p s entries => mapping p s (Ranking.dropPlaces gone entries)

namespace Ranking

/-- The labels of the children of a node, child by child. -/
def labels (labelKey : Option String) (n : Node) : List (Option String) :=
  n.branches.map (label? labelKey)

theorem labels_sequence (labelKey : Option String) (p : Path) (s : Span) (items : List Node) :
    labels labelKey (.sequence p s items) = items.map (itemLabel? labelKey) := by
  rw [labels, Node.branches, List.map_map]
  conv_rhs => rw [← List.zipIdx_map_fst 0 items, List.map_map]
  rfl

theorem labels_mapping (labelKey : Option String) (p : Path) (s : Span) (entries : List (String × Node)) :
    labels labelKey (.mapping p s entries) = entries.map fun e => some e.1 := by
  rw [labels, Node.branches, List.map_map]
  rfl

theorem labels_without (labelKey : Option String) (gone : List Nat) (n : Node) :
    labels labelKey (n.without gone) = dropPlaces gone (labels labelKey n) := by
  cases n with
  | scalar p s v => rfl
  | sequence p s items => rw [Node.without, labels_sequence, labels_sequence, map_dropPlaces]
  | mapping p s entries => rw [Node.without, labels_mapping, labels_mapping, map_dropPlaces]

theorem itemLabel?_place (labelKey : Option String) (n : Node) (p : Path) :
    itemLabel? labelKey (n.place p) = itemLabel? labelKey n := by
  cases labelKey with
  | none => rw [itemLabel?, itemLabel?, Node.value?_place]
  | some key =>
    rw [itemLabel?, itemLabel?, Node.child?_place]
    cases n.child? (.key key) with
    | error e => rfl
    | ok m =>
      simp only [Except.map, Node.value?_place]

/-- The labels do not depend on where in the document the node is. -/
theorem labels_place (labelKey : Option String) (n : Node) (p : Path) :
    labels labelKey (n.place p) = labels labelKey n := by
  unfold labels
  rw [Node.branches_place, List.map_map]
  refine List.map_congr_left fun b _ => ?_
  obtain ⟨s, c⟩ := b
  cases s with
  | key key => rfl
  | index i => exact itemLabel?_place labelKey c _

/-- A child with the second label may come after one with the first. -/
def MayFollow (order : List String) (o o' : Option String) : Prop :=
  ∀ l l' k k', o = some l → o' = some l' → Ranks order l k → Ranks order l' k' → k ≤ k'

theorem rankedAt_iff {order : List String} {labelKey : Option String} {n : Node} {i : Nat} {l : String} {k : Nat} :
    RankedAt order labelKey n.branches i l k ↔ (labels labelKey n)[i]? = some (some l) ∧ Ranks order l k := by
  unfold RankedAt labels
  rw [List.getElem?_map]
  constructor
  · rintro ⟨b, hb, hl, hk⟩
    rw [hb, Option.map_some, label?_eq_some_iff.mpr hl]
    exact ⟨rfl, hk⟩
  · rintro ⟨hl, hk⟩
    obtain ⟨b, hb, hlabel⟩ := Option.map_eq_some_iff.mp hl
    exact ⟨b, hb, label?_eq_some_iff.mp hlabel, hk⟩

theorem inOrder_iff_pairwise {order : List String} {labelKey : Option String} {n : Node} :
    InOrder order labelKey n.branches ↔ (labels labelKey n).Pairwise (MayFollow order) := by
  rw [List.pairwise_iff_getElem]
  unfold InOrder
  simp only [rankedAt_iff]
  constructor
  · intro h i j hi hj hij l l' k k' hl hl' hk hk'
    refine h i j l l' k k' hij ⟨?_, hk⟩ ⟨?_, hk'⟩
    · rw [List.getElem?_eq_getElem hi, hl]
    · rw [List.getElem?_eq_getElem hj, hl']
  · rintro h i j l l' k k' hij ⟨hl, hk⟩ ⟨hl', hk'⟩
    obtain ⟨hi, hl⟩ := List.getElem?_eq_some_iff.mp hl
    obtain ⟨hj, hl'⟩ := List.getElem?_eq_some_iff.mp hl'
    exact h i j hi hj hij l l' k k' hl hl' hk hk'

/-- What is left without the children out of place is in order, wherever it is put. -/
theorem inOrder_without {order : List String} {labelKey : Option String} {n : Node} {gone : List Nat}
    (h : ∀ i, i ∈ gone ↔ Displaced order labelKey n.branches i) (p : Path) :
    InOrder order labelKey ((n.without gone).place p).branches := by
  rw [inOrder_iff_pairwise, labels_place, labels_without]
  refine pairwise_dropPlaces fun i j o o' hij _ hkeep ho ho' => ?_
  rintro l l' k k' rfl rfl hk hk'
  by_contra hlt
  -- The later child would be out of place.
  refine hkeep ((h j).mpr ⟨l', k', rankedAt_iff.mpr ⟨ho', hk'⟩, i, hij, l, k, rankedAt_iff.mpr ⟨ho, hk⟩, ?_⟩)
  omega

/-! ## Judging a container -/

theorem judge_eq {n : Node} (h : n.kind ≠ .scalar) (order : List String) (labelKey : Option String) :
    judge order labelKey n = .ok (walk order labelKey none n.branches) := by
  unfold judge walk
  cases n with
  | scalar p s v => exact absurd rfl h
  | mapping p s entries => simp [labelled?, Node.branches, label?, List.filterMap_map]
  | sequence p s items =>
    rw [labelled?, Node.branches, List.filterMap_map]
    conv_lhs => rw [← List.zipIdx_map_fst 0 items, List.filterMap_map]
    rfl

theorem judge_error_iff {order : List String} {labelKey : Option String} {n : Node} :
    (∃ reason, judge order labelKey n = .error reason) ↔ n.kind = .scalar := by
  by_cases h : n.kind = .scalar
  · obtain ⟨p, s, v, rfl⟩ := Node.exists_of_kind_scalar h
    exact iff_of_true ⟨_, rfl⟩ rfl
  · refine iff_of_false ?_ h
    rintro ⟨reason, hreason⟩
    rw [judge_eq h] at hreason
    cases hreason

theorem judged_eq (order : List String) (labelKey : Option String) (n : Node) :
    judged (judge order labelKey) n = walk order labelKey none n.branches := by
  by_cases h : n.kind = .scalar
  · obtain ⟨p, s, v, rfl⟩ := Node.exists_of_kind_scalar h
    rfl
  · exact judged_of_ok (judge_eq h order labelKey)

/-- The notes about a container: one for each child out of place, in source order. -/
structure Tells (order : List String) (labelKey : Option String) (n : Node) (places : List Nat) (notes : List Note) :
    Prop where
  /-- The places of the children are in source order, and none is listed twice. -/
  increasing : places.Pairwise (· < ·)
  /-- They are those of the children that are out of place. -/
  mem_iff : ∀ i, i ∈ places ↔ Displaced order labelKey n.branches i
  /-- Each child has its note. -/
  told : List.Forall₂ (Told order labelKey n.branches) places notes

theorem tells_judged (order : List String) (labelKey : Option String) (n : Node) :
    ∃ places, Tells order labelKey n places (judged (judge order labelKey) n) := by
  have htop : Top order labelKey n.branches 0 none := by
    constructor
    · intro j hj
      exact absurd hj (Nat.not_lt_zero j)
    · rintro t ⟨⟩
  obtain ⟨places, hplaces, hnotes⟩ := walk_places List.drop_zero htop
  rw [judged_eq]
  refine ⟨places, hplaces.increasing, fun i => ?_, hnotes⟩
  rw [hplaces.mem_iff]
  exact and_iff_right (Nat.zero_le i)

theorem Tells.eq_nil_iff {order : List String} {labelKey : Option String} {n : Node} {places : List Nat}
    {notes : List Note} (h : Tells order labelKey n places notes) :
    notes = [] ↔ InOrder order labelKey n.branches := by
  have hlength := h.told.length_eq
  have hnil : notes = [] ↔ places = [] := by
    rw [← List.length_eq_zero_iff, ← List.length_eq_zero_iff, hlength]
  rw [hnil, inOrder_iff, List.eq_nil_iff_forall_not_mem]
  exact forall_congr' fun i => not_congr (h.mem_iff i)

end Ranking

open Ranking Selected

theorem judge_order {c : Check} {order : List String} {labelKey : Option String} (h : c.family = .order order labelKey)
    (selected : List Selected) :
    c.family.judge selected = foundNodes selected >>= judgeEach (Ranking.judge order labelKey) := by
  rw [h]
  rfl

/-- An order applies if a container is found, or if nothing is found and nothing is missing. -/
theorem applies_order_iff {c : Check} {order : List String} {labelKey : Option String}
    (h : c.family = .order order labelKey) (root : Node) :
    (∃ fs, c.evaluate root = .findings fs) ↔ (∃ n ∈ nodes (c.selector.select root), n.kind ≠ .scalar) ∨
      (nodes (c.selector.select root) = [] ∧ ¬ SomeMissing (c.selector.select root)) := by
  rw [Check.exists_findings_iff, Check.inapplicable_iff (judge_order h), Unfit]
  simp only [judge_error_iff]
  by_cases hnodes : nodes (c.selector.select root) = []
  · simp [hnodes]
  · simp [hnodes]

/-- An order applies if a mapping or a sequence is found, or if nothing is found and nothing is missing. Its findings
are then about the children, of each container found, that come after a child of greater rank. A container has none
just if the ranks of its children do not decrease, and has none any more when the children with findings are
deleted. -/
theorem order_findings (c : Check) (order : List String) (labelKey : Option String) :
    let ordering : Check := { c with family := .order order labelKey }
    (∀ root : Node,
      let selected := c.selector.select root
      let found := nodes selected
      ((∃ fs, ordering.evaluate root = .findings fs) ↔
        (∃ n ∈ found, n.kind ≠ .scalar) ∨ (found = [] ∧ ¬ SomeMissing selected)) ∧
      ∀ fs, ordering.evaluate root = .findings fs → ∃ notes : List (List Note),
        fs = notes.flatten.map ordering.finding ∧
        List.Forall₂ (fun n ns => ∃ places, Tells order labelKey n places ns) found notes) ∧
    ∀ n places notes, Tells order labelKey n places notes →
      (notes = [] ↔ InOrder order labelKey n.branches) ∧
      ∀ p places' rest, Tells order labelKey ((n.without places).place p) places' rest → rest = [] := by
  intro ordering
  refine ⟨fun root => ⟨applies_order_iff rfl root, fun fs hfs => ?_⟩, fun n places notes h => ⟨h.eq_nil_iff, ?_⟩⟩
  · have hfound : fs = (ordering.evaluate root).found := by
      rw [hfs]
      rfl
    have hjudge : ∀ selected, ordering.family.judge selected =
        foundNodes selected >>= judgeEach (Ranking.judge order labelKey) := judge_order rfl
    refine ⟨(nodes (c.selector.select root)).map (judged (Ranking.judge order labelKey)), ?_, ?_⟩
    · rw [hfound, Check.found_eq hjudge, List.flatMap_def]
    · rw [List.forall₂_map_right_iff, List.forall₂_same]
      exact fun n _ => tells_judged order labelKey n
  · intro p places' rest hrest
    exact hrest.eq_nil_iff.mpr (inOrder_without h.mem_iff p)

end DocLint
