import DocLint.Proofs.Check.Verdict
import DocLint.Proofs.Document.Growth
import DocLint.Proofs.Document.Value
import DocLint.Proofs.Run
import DocLint.Proofs.Selector.Reach

/-!
# Proofs: patterns and types

A pattern (`eval_pattern`) has a finding about each scalar found that is no string it accepts, and a type
(`eval_type`) about each node found that is not of it. Both judge every node on its own. So what they find is still
found when the document gains a child: the nodes that were found before are found again, among others perhaps, and the
ones that are judged have not changed.
-/

namespace DocLint

open Selected

/-! ## What patterns and types are about -/

/-- A scalar that the pattern does not accept: it is no string, or a string that does not match. -/
def Pattern.Refuses (p : Pattern) (n : Node) : Prop :=
  ∃ v, n.value? = some v ∧ ∀ s, v = .string s → p.accepts s = false

/-- The node is what is expected. Its type has that name, but integers are numbers, too, and every scalar is a
scalar. -/
def Expected.Names (e : Expected) (n : Node) : Prop :=
  n.typeName = e.text ∨ (e = .number ∧ n.typeName = "integer") ∨ (e = .scalar ∧ n.kind = .scalar)

theorem Expected.holds_iff {e : Expected} {n : Node} : e.holds n = true ↔ e.Names n := by
  unfold Names
  cases n with
  | mapping p s entries => cases e <;> simp [holds, text, Node.typeName, Node.value?, Node.kind, Kind.text]
  | sequence p s items => cases e <;> simp [holds, text, Node.typeName, Node.value?, Node.kind, Kind.text]
  | scalar p s v =>
    cases v with
    | null => cases e <;> simp [holds, text, Node.typeName, Node.value?, Node.kind, Scalar.typeName]
    | boolean b => cases e <;> simp [holds, text, Node.typeName, Node.value?, Node.kind, Scalar.typeName]
    | string t => cases e <;> simp [holds, text, Node.typeName, Node.value?, Node.kind, Scalar.typeName]
    | number x => cases x <;> cases e <;> simp [holds, text, Node.typeName, Node.value?, Node.kind, Scalar.typeName]

/-- What a pattern has to say about a node that may not be a scalar. -/
def patternNote? (p : Pattern) (n : Node) : Option Note :=
  n.value?.bind (patternNote p n)

theorem patternNote?_node {p : Pattern} {n : Node} {note : Note} (h : patternNote? p n = some note) : note.1 = n := by
  obtain ⟨v, -, hnote⟩ := Option.bind_eq_some_iff.mp h
  exact patternNote_node p n v note hnote

theorem patternNote?_isSome_iff {p : Pattern} {n : Node} : (patternNote? p n).isSome = true ↔ p.Refuses n := by
  unfold patternNote? Pattern.Refuses
  cases n.value? with
  | none => simp
  | some v =>
    cases v with
    | string s => cases hs : p.accepts s <;> simp [patternNote, hs]
    | null => simp [patternNote]
    | boolean b => simp [patternNote]
    | number x => simp [patternNote]

theorem typeNote_isSome_iff {e : Expected} {n : Node} : (typeNote e n).isSome = true ↔ ¬ e.Names n := by
  rw [← Expected.holds_iff]
  unfold typeNote
  cases e.holds n <;> simp

instance (p : Pattern) : DecidablePred p.Refuses := fun _ =>
  decidable_of_iff _ patternNote?_isSome_iff

instance (e : Expected) : DecidablePred e.Names := fun _ =>
  decidable_of_iff _ Expected.holds_iff

/-! ## Judging nodes on their own -/

theorem judged_pattern (p : Pattern) (n : Node) : judged (patternJudge p) n = (patternNote? p n).toList := by
  unfold judged patternJudge patternNote?
  cases n.value? with
  | none => rfl
  | some v => rfl

/-- What a type has to say about a node, as a judgement that is about every node. -/
def typeJudge (e : Expected) (n : Node) : Except String (List Note) :=
  .ok (typeNote e n).toList

theorem patternJudge_error_iff {p : Pattern} {n : Node} :
    (∃ reason, patternJudge p n = .error reason) ↔ n.kind ≠ .scalar := by
  cases n with
  | scalar path s v => simp [patternJudge, Node.value?, Node.kind]
  | sequence path s items => simp [patternJudge, Node.value?, Node.kind]
  | mapping path s entries => simp [patternJudge, Node.value?, Node.kind]

theorem judge_pattern {c : Check} {p : Pattern} (h : c.family = .pattern p) (selected : List Selected) :
    c.family.judge selected = foundNodes selected >>= judgeEach (patternJudge p) := by
  rw [h]
  rfl

theorem typeJudge_ne_error {e : Expected} {n : Node} : ¬ ∃ reason, typeJudge e n = .error reason := by
  rintro ⟨reason, h⟩
  cases h

theorem judgeEach_type (e : Expected) (ns : List Node) :
    judgeEach (typeJudge e) ns = .ok (ns.filterMap (typeNote e)) := by
  rcases judgeEach_cases (typeJudge e) ns with ⟨⟨hne, hnone⟩, -⟩ | ⟨-, hok⟩
  · obtain ⟨n, r, rfl⟩ := List.exists_cons_of_ne_nil hne
    exact absurd (hnone n List.mem_cons_self) typeJudge_ne_error
  · rw [hok, List.filterMap_eq_flatMap_toList]
    rfl

theorem judge_type {c : Check} {e : Expected} (h : c.family = .type e) (selected : List Selected) :
    c.family.judge selected = foundNodes selected >>= judgeEach (typeJudge e) := by
  rw [h]
  change (foundNodes selected).map _ = _
  cases foundNodes selected with
  | error reason => rfl
  | ok ns => exact (judgeEach_type e ns).symm

/-- The check has something to say about nodes one by one. -/
def Check.Notes (c : Check) (note : Node → Option Note) : Prop :=
  ∀ root, (c.evaluate root).found = ((nodes (c.selector.select root)).filterMap note).map c.finding

theorem notes_pattern {c : Check} {p : Pattern} (h : c.family = .pattern p) : c.Notes (patternNote? p) := by
  intro root
  rw [Check.found_eq (judge_pattern h), funext (judged_pattern p), ← List.filterMap_eq_flatMap_toList]

theorem notes_type {c : Check} {e : Expected} (h : c.family = .type e) : c.Notes (typeNote e) := by
  intro root
  have hjudged : judged (typeJudge e) = fun n => (typeNote e n).toList := rfl
  rw [Check.found_eq (judge_type h), hjudged, ← List.filterMap_eq_flatMap_toList]

theorem Check.Notes.forall₂_found {c : Check} {note : Node → Option Note} (h : c.Notes note) {offends : Node → Prop}
    [DecidablePred offends] (hsome : ∀ n, (note n).isSome = true ↔ offends n)
    (hnode : ∀ n x, note n = some x → x.1 = n) (root : Node) :
    List.Forall₂ c.About ((nodes (c.selector.select root)).filter fun n => offends n) (c.evaluate root).found := by
  rw [h root]
  apply forall₂_filterMap
  · intro n _ hn
    obtain ⟨x, hx⟩ := Option.isSome_iff_exists.mp ((hsome n).mpr hn)
    refine ⟨x, hx, ?_⟩
    have habout := c.about_finding x
    rwa [hnode n x hx] at habout
  · intro n _ hn
    rw [← hsome n] at hn
    exact Option.not_isSome_iff_eq_none.mp hn

/-! ## More children -/

section Sublists

variable {α β γ : Type}

theorem sublistForall₂_append {R : α → β → Prop} {xs xs' : List α} {ys ys' : List β}
    (h : List.SublistForall₂ R xs ys) (h' : List.SublistForall₂ R xs' ys') :
    List.SublistForall₂ R (xs ++ xs') (ys ++ ys') := by
  obtain ⟨zs, hzs, hsub⟩ := List.sublistForall₂_iff.mp h
  obtain ⟨zs', hzs', hsub'⟩ := List.sublistForall₂_iff.mp h'
  exact List.sublistForall₂_iff.mpr ⟨zs ++ zs', List.rel_append hzs hzs', hsub.append hsub'⟩

theorem sublistForall₂_flatMap {δ : Type} {R : α → β → Prop} {S : γ → δ → Prop} {f : α → List γ} {g : β → List δ}
    (hfg : ∀ x y, R x y → List.SublistForall₂ S (f x) (g y)) {xs : List α} {ys : List β}
    (h : List.SublistForall₂ R xs ys) : List.SublistForall₂ S (xs.flatMap f) (ys.flatMap g) := by
  induction h with
  | nil => exact .nil
  | cons hR _ ih =>
    rw [List.flatMap_cons, List.flatMap_cons]
    exact sublistForall₂_append (hfg _ _ hR) ih
  | @cons_right y _ _ _ ih =>
    obtain ⟨zs, hzs, hsub⟩ := List.sublistForall₂_iff.mp ih
    rw [List.flatMap_cons]
    exact List.sublistForall₂_iff.mpr ⟨zs, hzs, hsub.trans (List.sublist_append_right (g y) _)⟩

theorem sublist_filterMap {R : α → β → Prop} {f : α → Option γ} {g : β → Option γ} (hfg : ∀ x y, R x y → f x = g y)
    {xs : List α} {ys : List β} (h : List.SublistForall₂ R xs ys) : (xs.filterMap f).Sublist (ys.filterMap g) := by
  induction h with
  | nil => exact List.nil_sublist _
  | @cons x y _ _ hR _ ih =>
    rw [List.filterMap_cons, List.filterMap_cons, hfg x y hR]
    cases g y with
    | none => exact ih
    | some z => exact ih.cons_cons z
  | @cons_right y _ _ _ ih =>
    rw [List.filterMap_cons]
    cases g y with
    | none => exact ih
    | some z => exact ih.cons z

end Sublists

theorem Selected.nodes_flatMap {α : Type} (f : α → List Selected) (xs : List α) :
    nodes (xs.flatMap f) = xs.flatMap fun x => nodes (f x) := by
  induction xs with
  | nil => rfl
  | cons x r ih => rw [List.flatMap_cons, List.flatMap_cons, nodes_append, ih]

/-- The nodes that are found are still found, with at least the children they had. -/
theorem Node.Keeps.select {n m : Node} (h : n.Keeps m) (steps : List Step) :
    List.SublistForall₂ Node.Keeps (nodes (n.select steps)) (nodes (m.select steps)) := by
  induction steps generalizing n m with
  | nil => exact .cons h .nil
  | cons s r ih =>
    by_cases hs : s = .any
    · subst hs
      rw [Node.select, Node.select, nodes_flatMap, nodes_flatMap]
      exact sublistForall₂_flatMap (fun c d hcd => ih hcd) h.children
    · obtain ⟨t, rfl⟩ := Selector.exists_stepOf hs
      cases hget : n.get? t with
      | ok c =>
        obtain ⟨c', hc', hkeeps⟩ := h.child (Node.get_eq_ok_iff.mp hget)
        rw [Node.select_stepOf_of_ok hget, Node.select_stepOf_of_ok (Node.get_eq_ok_iff.mpr hc')]
        exact ih hkeeps
      | error e =>
        rw [Node.select_stepOf_of_error hget]
        exact .nil

/-- The findings about a node depend on the node itself and not on what is below it. -/
def Check.Local (c : Check) (note : Node → Option Note) : Prop :=
  ∀ n m, n.Keeps m → (note n).map c.finding = (note m).map c.finding

theorem Check.finding_congr (c : Check) {n m : Node} (hpath : m.path = n.path) (hspan : m.span = n.span)
    (text : String) : c.finding (n, text) = c.finding (m, text) := by
  rw [Check.finding, Check.finding, Finding.atNode, Finding.atNode, hpath, hspan]

theorem local_pattern (c : Check) (p : Pattern) : c.Local (patternNote? p) := by
  intro n m h
  obtain ⟨hpath, hspan, -, hvalue⟩ := h.same
  unfold patternNote?
  rw [hvalue]
  cases n.value? with
  | none => rfl
  | some v =>
    simp only [Option.bind_some, patternNote, hpath]
    split
    · split
      · rfl
      · exact congrArg some (c.finding_congr hpath hspan _)
    · exact congrArg some (c.finding_congr hpath hspan _)

theorem local_type (c : Check) (e : Expected) : c.Local (typeNote e) := by
  intro n m h
  obtain ⟨hpath, hspan, hkind, hvalue⟩ := h.same
  have htype : m.typeName = n.typeName := by rw [Node.typeName, Node.typeName, hvalue, hkind]
  have hholds : e.holds m = e.holds n := by
    rw [Bool.eq_iff_iff, Expected.holds_iff, Expected.holds_iff, Expected.Names, Expected.Names, htype, hkind]
  simp only [typeNote, hholds, hpath, htype]
  split
  · rfl
  · exact congrArg some (c.finding_congr hpath hspan _)

section

variable {c : Check} {note : Node → Option Note} (hnotes : c.Notes note) (hlocal : c.Local note)
include hnotes hlocal

theorem Check.found_sublist {root root' : Node} (h : root.Gains root') :
    (c.evaluate root).found.Sublist (c.evaluate root').found := by
  have hnodes := Node.Keeps.select (.inr h) c.selector.steps
  rw [hnotes root, hnotes root', List.map_filterMap, List.map_filterMap]
  exact sublist_filterMap hlocal hnodes

/-- In a document that gains a child, a check that looks at nodes on their own still finds what it found. So it does in
a run, if no key is repeated; and if the places of the nodes move, all but the places of the findings stay. -/
theorem Check.found_of_gains (tree tree' : Node) :
    (tree.Gains tree' →
      (c.evaluate (Document.ofTree tree).root).found.Sublist (c.evaluate (Document.ofTree tree').root).found ∧
      ((Document.ofTree tree').root.Unrepeated →
        (c.toRule.run (Document.ofTree tree)).Sublist (c.toRule.run (Document.ofTree tree')))) ∧
    (tree.bare.Gains tree'.bare →
      ((c.evaluate (Document.ofTree tree).root).found.map Finding.spanless).Sublist
        ((c.evaluate (Document.ofTree tree').root).found.map Finding.spanless)) := by
  refine ⟨fun h => ?_, fun h => ?_⟩
  · have hroot : (Document.ofTree tree).root.Gains (Document.ofTree tree').root := h.place Path.root
    have hfound := Check.found_sublist hnotes hlocal hroot
    refine ⟨hfound, fun hkeys' => ?_⟩
    have hkeys : (Document.ofTree tree).root.Unrepeated := Node.Keeps.unrepeated (.inr hroot) hkeys'
    rw [c.run_of_unrepeated hkeys, c.run_of_unrepeated hkeys']
    exact hfound
  · have hspanless : ∀ t : Node, (Document.ofTree t).root.spanless = t.bare.place Path.root := fun t =>
      Node.spanless_place t Path.root
    rw [← c.found_spanless, ← c.found_spanless, hspanless, hspanless]
    exact Check.found_sublist hnotes hlocal (h.place Path.root)

end

/-! ## Both families -/

theorem inapplicable_pattern_iff {c : Check} {p : Pattern} (h : c.family = .pattern p) (root : Node) :
    (∃ reason, c.evaluate root = .inapplicable reason) ↔
      (nodes (c.selector.select root) = [] ∧ SomeMissing (c.selector.select root)) ∨
        (nodes (c.selector.select root) ≠ [] ∧ ∀ n ∈ nodes (c.selector.select root), n.kind ≠ .scalar) := by
  rw [Check.inapplicable_iff (judge_pattern h), Unfit]
  simp only [patternJudge_error_iff]

theorem inapplicable_type_iff {c : Check} {e : Expected} (h : c.family = .type e) (root : Node) :
    (∃ reason, c.evaluate root = .inapplicable reason) ↔
      nodes (c.selector.select root) = [] ∧ SomeMissing (c.selector.select root) := by
  rw [Check.inapplicable_iff (judge_type h)]
  constructor
  · rintro (hnothing | ⟨hne, hnone⟩)
    · exact hnothing
    · obtain ⟨n, hn⟩ := List.exists_mem_of_ne_nil _ hne
      exact absurd (hnone n hn) typeJudge_ne_error
  · exact .inl

/-- A pattern does not apply if nothing is found and something is missing, or if all that is found are containers;
otherwise it has one finding about each scalar that it does not accept, in the order in which they are found. A type
does not apply if nothing is found and something is missing; otherwise it has one finding about each node that is not
of it. Either keeps its findings when the document gains a child anywhere, say below a wildcard. -/
theorem pattern_and_type_findings (c : Check) (p : Pattern) (e : Expected) :
    let pattern : Check := { c with family := .pattern p }
    let type : Check := { c with family := .type e }
    (∀ root : Node,
      let selected := c.selector.select root
      let found := nodes selected
      ((∃ reason, pattern.evaluate root = .inapplicable reason) ↔
        (found = [] ∧ SomeMissing selected) ∨ (found ≠ [] ∧ ∀ n ∈ found, n.kind ≠ .scalar)) ∧
      ((¬ ∃ reason, pattern.evaluate root = .inapplicable reason) → ∃ fs, pattern.evaluate root = .findings fs ∧
        List.Forall₂ pattern.About (found.filter fun n => p.Refuses n) fs) ∧
      ((∃ reason, type.evaluate root = .inapplicable reason) ↔ found = [] ∧ SomeMissing selected) ∧
      ((¬ ∃ reason, type.evaluate root = .inapplicable reason) → ∃ fs, type.evaluate root = .findings fs ∧
        List.Forall₂ type.About (found.filter fun n => ¬ e.Names n) fs)) ∧
    ∀ check ∈ [pattern, type], ∀ tree tree' : Node,
      let d := Document.ofTree tree
      let d' := Document.ofTree tree'
      (tree.Gains tree' →
        (check.evaluate d.root).found.Sublist (check.evaluate d'.root).found ∧
        (d'.root.Unrepeated → (check.toRule.run d).Sublist (check.toRule.run d'))) ∧
      (tree.bare.Gains tree'.bare →
        ((check.evaluate d.root).found.map Finding.spanless).Sublist
          ((check.evaluate d'.root).found.map Finding.spanless)) := by
  intro pattern type
  have hpattern : pattern.Notes (patternNote? p) := notes_pattern rfl
  have htype : type.Notes (typeNote e) := notes_type rfl
  refine ⟨fun root => ⟨inapplicable_pattern_iff rfl root, fun happlies => ?_, inapplicable_type_iff rfl root,
    fun happlies => ?_⟩, ?_⟩
  · refine ⟨_, pattern.evaluate_of_applies happlies, ?_⟩
    exact hpattern.forall₂_found (fun _ => patternNote?_isSome_iff) (fun _ _ => patternNote?_node) root
  · refine ⟨_, type.evaluate_of_applies happlies, ?_⟩
    exact htype.forall₂_found (fun _ => typeNote_isSome_iff) (typeNote_node e) root
  · intro check hcheck tree tree'
    rcases List.mem_cons.mp hcheck with rfl | hcheck
    · exact Check.found_of_gains hpattern (local_pattern pattern p) tree tree'
    · cases List.mem_singleton.mp hcheck
      exact Check.found_of_gains htype (local_type type e) tree tree'

end DocLint
