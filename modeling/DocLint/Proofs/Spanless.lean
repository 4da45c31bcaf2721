import DocLint.Proofs.Check

/-!
# Proofs: checks do not look at spans

A tree without its spans has the same nodes at the same paths. Selectors lead to the same nodes in it, and
each family has the same to say about them. So the findings of a check on a tree without spans are its
findings on the tree, without their spans.
-/

namespace DocLint

/-! ## Trees without spans -/

namespace Node

mutual

/-- The tree below a node with every span erased. The paths stay. -/
def spanless : Node → Node
  | scalar p _ v => scalar p Span.start v
  | sequence p _ items => sequence p Span.start (spanlessItems items)
  | mapping p _ entries => mapping p Span.start (spanlessEntries entries)

/-- Erases the spans of the nodes of a list. -/
def spanlessItems : List Node → List Node
  | [] => []
  | n :: r => spanless n :: spanlessItems r

/-- Erases the spans of the nodes of some entries. -/
def spanlessEntries : List (String × Node) → List (String × Node)
  | [] => []
  | (k, n) :: r => (k, spanless n) :: spanlessEntries r

end

theorem spanlessItems_eq_map (items : List Node) : spanlessItems items = items.map spanless := by
  induction items with
  | nil => rfl
  | cons n r ih => rw [spanlessItems, ih, List.map_cons]

theorem spanlessEntries_eq_map (entries : List (String × Node)) :
    spanlessEntries entries = entries.map fun e => (e.1, e.2.spanless) := by
  induction entries with
  | nil => rfl
  | cons e r ih => rw [spanlessEntries, ih, List.map_cons]

@[simp] theorem path_spanless (n : Node) : n.spanless.path = n.path := by
  cases n <;> rfl

@[simp] theorem span_spanless (n : Node) : n.spanless.span = Span.start := by
  cases n <;> rfl

@[simp] theorem kind_spanless (n : Node) : n.spanless.kind = n.kind := by
  cases n <;> rfl

@[simp] theorem value_spanless (n : Node) : n.spanless.value? = n.value? := by
  cases n <;> rfl

@[simp] theorem typeName_spanless (n : Node) : n.spanless.typeName = n.typeName := by
  rw [typeName, value_spanless, kind_spanless, typeName]

theorem children_spanless (n : Node) : n.spanless.children = n.children.map spanless := by
  cases n with
  | scalar p s v => rfl
  | sequence p s items => exact spanlessItems_eq_map items
  | mapping p s entries => simp [spanless, children, spanlessEntries_eq_map]

theorem keys_spanless (n : Node) : n.spanless.keys = n.keys := by
  cases n with
  | scalar p s v => rfl
  | sequence p s items => rfl
  | mapping p s entries => simp [spanless, keys, spanlessEntries_eq_map]

theorem preorder_spanless (n : Node) : n.spanless.preorder = n.preorder.map spanless := by
  induction n using children_induction with
  | step n ih =>
    rw [preorder_eq_cons, preorder_eq_cons n, children_spanless, List.flatMap_map, List.map_cons, List.map_flatMap]
    exact congrArg _ (List.flatMap_congr ih)

theorem unrepeated_spanless {n : Node} : n.spanless.Unrepeated ↔ n.Unrepeated := by
  simp [Unrepeated, preorder_spanless, keys_spanless]

/-- The same segments lead to the same children, and the same segments are missing. -/
theorem child_spanless (n : Node) (s : Segment) : n.spanless.child? s = (n.child? s).map spanless := by
  cases n with
  | scalar p sp v => rfl
  | sequence p sp items =>
    cases s with
    | key k => rfl
    | index i => cases hi : items[i]? <;> simp [spanless, child?, spanlessItems_eq_map, hi, Except.map]
  | mapping p sp entries =>
    cases s with
    | index i => rfl
    | key k =>
      have hfind : (spanlessEntries entries).find? (·.1 = k) =
          (entries.find? (·.1 = k)).map fun e => (e.1, e.2.spanless) := by
        rw [spanlessEntries_eq_map, List.find?_map]
        rfl
      cases hf : entries.find? (·.1 = k) <;> simp [spanless, child?, find?, hfind, hf, Except.map]

theorem get_spanless (n : Node) (s : Segment) : n.spanless.get? s = (n.get? s).map spanless := by
  rw [get?, get?, child_spanless, path_spanless]
  cases n.child? s <;> rfl

end Node

/-! ## Selectors -/

/-- The end of a branch in the tree without spans. -/
def Selected.spanless : Selected → Selected
  | found n => found n.spanless
  | missing parent e => missing parent.spanless e

/-- Selectors lead to the same nodes. -/
theorem Node.select_spanless (n : Node) (steps : List Step) :
    n.spanless.select steps = (n.select steps).map Selected.spanless := by
  induction steps generalizing n with
  | nil => rfl
  | cons s r ih =>
    cases s with
    | any => simp [select, children_spanless, List.flatMap_map, List.map_flatMap, ih]
    | key k => cases hget : n.get? (.key k) <;> simp [select, get_spanless, hget, Except.map, ih, Selected.spanless]
    | index i => cases hget : n.get? (.index i) <;> simp [select, get_spanless, hget, Except.map, ih, Selected.spanless]

theorem nodes_spanless (xs : List Selected) :
    Selected.nodes (xs.map Selected.spanless) = (Selected.nodes xs).map Node.spanless := by
  induction xs with
  | nil => rfl
  | cons x r ih => cases x <;> simp [Selected.spanless, Selected.nodes, ih]

theorem firstMissing_spanless (xs : List Selected) :
    Selected.firstMissing? (xs.map Selected.spanless) = Selected.firstMissing? xs := by
  induction xs with
  | nil => rfl
  | cons x r ih => cases x <;> simp [Selected.spanless, Selected.firstMissing?, ih]

theorem foundNodes_spanless (xs : List Selected) :
    foundNodes (xs.map Selected.spanless) = (foundNodes xs).map (·.map Node.spanless) := by
  rw [foundNodes, foundNodes, nodes_spanless, firstMissing_spanless]
  cases Selected.nodes xs <;> cases Selected.firstMissing? xs <;> rfl

/-! ## Notes -/

/-- The note about the node without its span. -/
def Note.spanless (note : Note) : Note :=
  (note.1.spanless, note.2)

/-- The verdict about the nodes without their spans. -/
def Verdict.spanless (v : Verdict) : Verdict :=
  v.map (·.map Note.spanless)

/-- Without spans the judgement has the same to say. -/
def Blind (judge : Node → Verdict) : Prop :=
  ∀ n, judge n.spanless = (judge n).spanless

theorem requiredNote_spanless (c : Option Condition) (x : Selected) :
    requiredNote c x.spanless = (requiredNote c x).map Note.spanless := by
  cases x with
  | missing parent e => rfl
  | found n =>
    simp only [Selected.spanless, requiredNote, Node.value_spanless, Node.path_spanless]
    split
    · split <;> rfl
    · rfl

theorem forbiddenNote_spanless (x : Selected) : forbiddenNote x.spanless = (forbiddenNote x).map Note.spanless := by
  cases x with
  | missing parent e => rfl
  | found n => simp [Selected.spanless, forbiddenNote, Note.spanless]

theorem holds_spanless (expected : Expected) (n : Node) : expected.holds n.spanless = expected.holds n := by
  cases n with
  | scalar p s v =>
    cases v with
    | number x => cases expected <;> cases x <;> rfl
    | null | boolean b | string t => cases expected <;> rfl
  | sequence p s items | mapping p s entries => cases expected <;> rfl

theorem typeNote_spanless (expected : Expected) (n : Node) :
    typeNote expected n.spanless = (typeNote expected n).map Note.spanless := by
  simp only [typeNote, holds_spanless, Node.path_spanless, Node.typeName_spanless]
  split <;> rfl

theorem patternNote_spanless (p : Pattern) (n : Node) (v : Scalar) :
    patternNote p n.spanless v = (patternNote p n v).map Note.spanless := by
  unfold patternNote
  rw [Node.path_spanless]
  split
  · split <;> rfl
  · rfl

theorem blind_pattern (p : Pattern) : Blind (patternJudge p) := by
  intro n
  rw [patternJudge, patternJudge, Node.value_spanless, Node.path_spanless, Node.kind_spanless]
  cases n.value? with
  | none => rfl
  | some v =>
    simp only [patternNote_spanless]
    cases patternNote p n v <;> rfl

theorem outOfOrder_spanless (order : List String) (top : Option (Nat × String)) (labelled : List (String × Node)) :
    Ranking.outOfOrder order top (labelled.map fun e => (e.1, e.2.spanless)) =
      (Ranking.outOfOrder order top labelled).map Note.spanless := by
  fun_induction Ranking.outOfOrder order top labelled with
  | case1 => rfl
  | case2 top label n r hrank ih => simp [Ranking.outOfOrder, hrank, ih]
  | case3 label n r k hrank ih => simp [Ranking.outOfOrder, hrank, ih]
  | case4 label n r k hrank best previous hless ih => simp [Ranking.outOfOrder, hrank, hless, ih, Note.spanless]
  | case5 label n r k hrank best previous hless ih => simp [Ranking.outOfOrder, hrank, hless, ih]

theorem itemLabel_spanless (labelKey : Option String) (n : Node) :
    Ranking.itemLabel? labelKey n.spanless = Ranking.itemLabel? labelKey n := by
  cases labelKey with
  | none => simp [Ranking.itemLabel?]
  | some k => cases hc : n.child? (.key k) <;> simp [Ranking.itemLabel?, Node.child_spanless, hc, Except.map]

theorem labelled_spanless (labelKey : Option String) (n : Node) :
    Ranking.labelled? labelKey n.spanless =
      (Ranking.labelled? labelKey n).map (·.map fun e => (e.1, e.2.spanless)) := by
  cases n with
  | scalar p s v => rfl
  | sequence p s items =>
    simp [Node.spanless, Ranking.labelled?, Node.spanlessItems_eq_map, List.filterMap_map, List.map_filterMap,
      Function.comp_def, itemLabel_spanless]
  | mapping p s entries => simp [Node.spanless, Ranking.labelled?, Node.spanlessEntries_eq_map]

theorem blind_order (labels : List String) (labelKey : Option String) : Blind (Ranking.judge labels labelKey) := by
  intro n
  rw [Ranking.judge, Ranking.judge, labelled_spanless, Node.path_spanless]
  cases Ranking.labelled? labelKey n with
  | none => rfl
  | some labelled => exact congrArg Except.ok (outOfOrder_spanless labels none labelled)

/-! ## Families -/

theorem toOption_spanless (v : Verdict) : v.spanless.toOption = v.toOption.map (·.map Note.spanless) := by
  cases v <;> rfl

theorem judgeEach_spanless {judge : Node → Verdict} (h : Blind judge) (nodes : List Node) :
    judgeEach judge (nodes.map Node.spanless) = (judgeEach judge nodes).spanless := by
  have hverdicts : (nodes.map Node.spanless).map judge = (nodes.map judge).map Verdict.spanless := by
    rw [List.map_map, List.map_map]
    exact List.map_congr_left fun n _ => h n
  have hfitting : ((nodes.map judge).map Verdict.spanless).filterMap Except.toOption =
      ((nodes.map judge).filterMap Except.toOption).map (·.map Note.spanless) := by
    rw [List.filterMap_map, List.map_filterMap]
    exact List.filterMap_congr fun v _ => toOption_spanless v
  have hreason : ∀ reason : Verdict → Option String, (∀ v, reason v.spanless = reason v) →
      ((nodes.map judge).map Verdict.spanless).findSome? reason = (nodes.map judge).findSome? reason := by
    intro reason hreason
    rw [List.findSome?_map]
    exact congrArg (List.findSome? · _) (funext hreason)
  unfold judgeEach
  rw [hverdicts]
  dsimp only
  rw [hfitting, hreason _ (fun v => by cases v <;> rfl)]
  generalize List.findSome? _ (nodes.map judge) = first
  cases (nodes.map judge).filterMap Except.toOption with
  | nil => cases first <;> rfl
  | cons notes r => simp [Verdict.spanless, Except.map]

/-- Every family has the same to say about the same branches. -/
theorem Family.judge_spanless (f : Family) (xs : List Selected) :
    f.judge (xs.map Selected.spanless) = (f.judge xs).spanless := by
  cases f with
  | required c =>
    simp [Family.judge, Verdict.spanless, List.filterMap_map, List.map_filterMap, requiredNote_spanless, Except.map]
  | forbidden =>
    simp [Family.judge, Verdict.spanless, List.filterMap_map, List.map_filterMap, forbiddenNote_spanless, Except.map]
  | pattern p =>
    rw [Family.judge, Family.judge, foundNodes_spanless]
    cases foundNodes xs with
    | error reason => rfl
    | ok nodes => exact judgeEach_spanless (blind_pattern p) nodes
  | order labels labelKey =>
    rw [Family.judge, Family.judge, foundNodes_spanless]
    cases foundNodes xs with
    | error reason => rfl
    | ok nodes => exact judgeEach_spanless (blind_order labels labelKey) nodes
  | type expected =>
    rw [Family.judge, Family.judge, foundNodes_spanless]
    cases foundNodes xs with
    | error reason => rfl
    | ok nodes =>
      simp [Verdict.spanless, List.filterMap_map, List.map_filterMap, typeNote_spanless, Except.map]

/-! ## Findings -/

/-- The finding without its span. -/
def Finding.spanless (f : Finding) : Finding :=
  { f with span := Span.start }

/-- On the tree without spans a check finds the same. -/
theorem Check.found_spanless (c : Check) (root : Node) :
    (c.evaluate root.spanless).found = (c.evaluate root).found.map Finding.spanless := by
  have hselect : c.selector.select root.spanless = (c.selector.select root).map Selected.spanless :=
    root.select_spanless c.selector.steps
  rw [Check.evaluate, Check.evaluate, hselect, Family.judge_spanless]
  cases c.family.judge (c.selector.select root) with
  | error reason => rfl
  | ok notes =>
    show (notes.map Note.spanless).map c.finding = (notes.map c.finding).map Finding.spanless
    rw [List.map_map, List.map_map]
    refine List.map_congr_left fun note _ => ?_
    simp [Note.spanless, Check.finding, Finding.spanless, Finding.atNode]

end DocLint
