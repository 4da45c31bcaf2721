import DocLint.Proofs.Document.Tree
import DocLint.Proofs.Selector.Language

/-!
# Proofs: what a selector reaches

Every branch of a selector ends at a node of the document. Where no mapping repeats a key, no two branches
end at the same path: steps lead on from a node to one child, and a wildcard to children whose paths have
no extension in common. Wildcards alone reach every node, each at its depth.
-/

namespace DocLint

/-- The node at which a branch of a selector ends. -/
def Selected.node : Selected → Node
  | found n => n
  | missing parent _ => parent

namespace Node

/-! ## Where branches end -/

/-- A step that is no wildcard leads to one child, or the branch ends where the child is missing. -/
theorem select_step (n : Node) {s : Step} (hs : s ≠ .any) (r : List Step) :
    (∃ c ∈ n.children, n.select (s :: r) = c.select r) ∨ ∃ e, n.select (s :: r) = [.missing n e] := by
  cases s with
  | any => exact absurd rfl hs
  | key k =>
    cases hget : n.get? (.key k) with
    | ok c => exact .inl ⟨c, mem_children_of_get hget, by simp [select, hget]⟩
    | error e => exact .inr ⟨e, by simp [select, hget]⟩
  | index i =>
    cases hget : n.get? (.index i) with
    | ok c => exact .inl ⟨c, mem_children_of_get hget, by simp [select, hget]⟩
    | error e => exact .inr ⟨e, by simp [select, hget]⟩

/-- What holds where nothing is left to follow, where the next step has no child, and of children if they
have it from the rest of the steps, holds of following any steps. -/
theorem select_induction {P : Node → List Step → List Selected → Prop}
    (nil : ∀ n, P n [] [.found n])
    (any : ∀ n r, (∀ c ∈ n.children, P c r (c.select r)) → P n (.any :: r) (n.children.flatMap (·.select r)))
    (child : ∀ n s r c, c ∈ n.children → P c r (c.select r) → P n (s :: r) (c.select r))
    (missing : ∀ n s r e, P n (s :: r) [.missing n e]) (n : Node) (steps : List Step) :
    P n steps (n.select steps) := by
  induction steps generalizing n with
  | nil => exact nil n
  | cons s r ih =>
    by_cases hs : s = .any
    · subst hs
      exact any n r fun c _ => ih c
    · rcases select_step n hs r with ⟨c, hc, heq⟩ | ⟨e, heq⟩
      · exact heq ▸ child n s r c hc (ih c)
      · exact heq ▸ missing n s r e

/-- Every branch ends at the node where it starts or below it. -/
theorem node_mem_preorder_of_select (n : Node) (steps : List Step) :
    ∀ x ∈ n.select steps, x.node ∈ n.preorder := by
  refine select_induction (P := fun n _ xs => ∀ x ∈ xs, x.node ∈ n.preorder) ?_ ?_ ?_ ?_ n steps
  · intro n x hx
    cases List.mem_singleton.mp hx
    exact n.self_mem_preorder
  · intro n r ih x hx
    obtain ⟨c, hc, hx⟩ := List.mem_flatMap.mp hx
    exact mem_preorder_of_child hc (ih c hc x hx)
  · intro n s r c hc ih x hx
    exact mem_preorder_of_child hc (ih x hx)
  · intro n s r e x hx
    cases List.mem_singleton.mp hx
    exact n.self_mem_preorder

/-- Where no key is repeated, the branches end at distinct paths, which all lead through the start. -/
theorem paths_of_select {n : Node} (hplaced : n.Placed) (hkeys : n.Unrepeated) (steps : List Step) :
    ((n.select steps).map fun x => x.node.path).Nodup ∧ ∀ x ∈ n.select steps, n.path <+: x.node.path := by
  revert hplaced hkeys
  refine select_induction (P := fun n _ xs => n.Placed → n.Unrepeated →
    (xs.map fun x => x.node.path).Nodup ∧ ∀ x ∈ xs, n.path <+: x.node.path) ?_ ?_ ?_ ?_ n steps
  · intro n _ _
    simp [Selected.node]
  · intro n r ih hplaced hkeys
    have hchild : ∀ c ∈ n.children, ∀ x ∈ c.select r, c.path <+: x.node.path := fun c hc =>
      (ih c hc (hplaced.of_child hc) (hkeys.of_child hc)).2
    refine ⟨?_, ?_⟩
    · rw [List.map_flatMap, List.nodup_flatMap]
      refine ⟨fun c hc => (ih c hc (hplaced.of_child hc) (hkeys.of_child hc)).1, ?_⟩
      refine (pairwise_children hplaced (hkeys n n.self_mem_preorder)).imp_of_mem ?_
      intro c d hc hd hcd p hpc hpd
      obtain ⟨x, hx, rfl⟩ := List.mem_map.mp hpc
      obtain ⟨y, hy, hxy⟩ := List.mem_map.mp hpd
      exact hcd _ (hchild c hc x hx) (hxy ▸ hchild d hd y hy)
    · intro x hx
      obtain ⟨c, hc, hx⟩ := List.mem_flatMap.mp hx
      exact (hplaced.path_prefix_child hc).trans (hchild c hc x hx)
  · intro n s r c hc ih hplaced hkeys
    obtain ⟨hnodup, hthrough⟩ := ih (hplaced.of_child hc) (hkeys.of_child hc)
    exact ⟨hnodup, fun x hx => (hplaced.path_prefix_child hc).trans (hthrough x hx)⟩
  · intro n s r e _ _
    simp [Selected.node]

/-! ## Wildcards reach every node -/

theorem exists_wildcards {n m : Node} (hm : m ∈ n.preorder) :
    ∃ k, Selected.found m ∈ n.select (List.replicate k .any) := by
  induction n using children_induction with
  | step n ih =>
    rcases mem_preorder_iff.mp hm with rfl | ⟨c, hc, hm⟩
    · exact ⟨0, by simp [select]⟩
    · obtain ⟨k, hk⟩ := ih c hc hm
      refine ⟨k + 1, ?_⟩
      rw [List.replicate_succ, select]
      exact List.mem_flatMap.mpr ⟨c, hc, hk⟩

end Node

namespace Selector

open DocLint.Text DocLint.Json

/-- The dot and the star of some wildcards. -/
def stars (k : Nat) : List Char :=
  (List.replicate k ['.', '*']).flatten

theorem stars_succ (k : Nat) : stars (k + 1) = '.' :: '*' :: stars k := by
  simp [stars, List.replicate_succ]

theorem stops_stars (k : Nat) : Stops (fun c => !endsName c) (stars k) := by
  cases k with
  | zero => exact stops_nil _
  | succ k =>
    rw [stars_succ, stops_cons]
    rfl

theorem stepsText_stars (k : Nat) : StepsText (stars k) (List.replicate k .any) := by
  induction k with
  | zero => exact .nil
  | succ k ih =>
    rw [stars_succ, List.replicate_succ]
    have hname : ∀ c ∈ ['*'], endsName c = false := by
      intro c hc
      rw [List.mem_singleton.mp hc]
      rfl
    have hstar : StepText ('.' :: (['*'] ++ stars k)) .any (stars k) := .dot hname (stops_stars k) .any
    exact .cons hstar ih

theorem dotted_stars (k : Nat) : Dotted (stars k) (stars k) := by
  cases k with
  | zero => exact .nil
  | succ k => exact .there rfl

theorem solid_stars (k : Nat) : Solid ('$' :: stars k) := by
  rintro c (hc | hc)
  · cases hc
    decide
  · cases k with
    | zero =>
      cases hc
      decide
    | succ k =>
      have hlast : '$' :: stars (k + 1) = ('$' :: stars k ++ ['.']) ++ ['*'] := by
        simp [stars, List.replicate_succ']
      rw [hlast, List.getLast?_concat] at hc
      cases hc
      decide

/-- A selector of wildcards alone is read as what it is. -/
theorem read_stars (k : Nat) :
    ∃ s, read (String.ofList ('$' :: stars k)) = .ok s ∧ s.steps = List.replicate k .any := by
  have hselector : SelectorText (String.ofList ('$' :: stars k)).toList (List.replicate k .any) := by
    rw [String.toList_ofList]
    exact ⟨_, _, _, (solid_stars k).trimmed, .one, dotted_stars k, stepsText_stars k⟩
  exact ⟨_, read_eq_ok_iff.mpr hselector, rfl⟩

end Selector

end DocLint
