import DocLint.Proofs.Check

/-!
# Proofs: where a check applies

Patterns, orders and types judge the nodes that a selector finds, one by one. They do not apply where it finds none
because something is missing (`found_nodes`). A pattern and an order do not apply either where the selector finds
nodes none of which they are about. Everywhere else the findings are those about each node, in the order in which the
nodes are found.
-/

namespace DocLint

namespace Selected

/-- A branch ends early. -/
def SomeMissing (selected : List Selected) : Prop :=
  ∃ n e, .missing n e ∈ selected

theorem nodes_append (xs ys : List Selected) : nodes (xs ++ ys) = nodes xs ++ nodes ys := by
  induction xs with
  | nil => rfl
  | cons x r ih =>
    cases x with
    | found n => rw [List.cons_append, nodes, nodes, ih, List.cons_append]
    | missing n e => rw [List.cons_append, nodes, nodes, ih]

theorem not_someMissing_nil : ¬ SomeMissing [] := by
  rintro ⟨n, e, h⟩
  cases h

theorem someMissing_missing (n : Node) (e : NotFound) (r : List Selected) : SomeMissing (.missing n e :: r) :=
  ⟨n, e, List.mem_cons_self⟩

theorem someMissing_found_iff {n : Node} {r : List Selected} : SomeMissing (.found n :: r) ↔ SomeMissing r := by
  simp [SomeMissing]

theorem firstMissing_eq_none_iff {selected : List Selected} :
    firstMissing? selected = none ↔ ¬ SomeMissing selected := by
  induction selected with
  | nil => simp [firstMissing?, not_someMissing_nil]
  | cons x r ih =>
    cases x with
    | found n => rw [firstMissing?, ih, someMissing_found_iff]
    | missing n e => simp [firstMissing?, someMissing_missing]

end Selected

open Selected

/-! ## Judging what is found -/

/-- What a judgement has to say about a node: nothing if it is not about it. -/
def judged (judge : Node → Except String (List Note)) (n : Node) : List Note :=
  (judge n).toOption.getD []

/-- There is nothing to judge: no node is found and something is missing, or the judgement is about none of the
nodes. -/
def Unfit (judge : Node → Except String (List Note)) (selected : List Selected) : Prop :=
  (nodes selected = [] ∧ SomeMissing selected) ∨
    (nodes selected ≠ [] ∧ ∀ n ∈ nodes selected, ∃ reason, judge n = .error reason)

section Judging

variable {judge : Node → Except String (List Note)}

theorem judged_of_ok {n : Node} {notes : List Note} (h : judge n = .ok notes) : judged judge n = notes := by
  rw [judged, h]
  rfl

theorem judged_of_error {n : Node} {reason : String} (h : judge n = .error reason) : judged judge n = [] := by
  rw [judged, h]
  rfl

theorem flatten_fitting (ns : List Node) :
    ((ns.map judge).filterMap Except.toOption).flatten = ns.flatMap (judged judge) := by
  induction ns with
  | nil => rfl
  | cons n r ih =>
    rw [List.map_cons, List.flatMap_cons]
    cases hn : judge n with
    | ok notes =>
      have hfits : Except.toOption (.ok notes : Except String (List Note)) = some notes := rfl
      rw [List.filterMap_cons_some hfits, List.flatten_cons, ih, judged_of_ok hn]
    | error reason =>
      have hunfit : Except.toOption (.error reason : Except String (List Note)) = none := rfl
      rw [List.filterMap_cons_none hunfit, ih, judged_of_error hn, List.nil_append]

theorem fitting_eq_nil_iff {ns : List Node} :
    (ns.map judge).filterMap Except.toOption = [] ↔ ∀ n ∈ ns, ∃ reason, judge n = .error reason := by
  rw [List.filterMap_eq_nil_iff, List.forall_mem_map]
  refine forall₂_congr fun n _ => ?_
  cases judge n with
  | ok notes => simp [Except.toOption]
  | error reason => simp [Except.toOption]

/-- Nodes are judged unless there are some and the judgement is about none of them. -/
theorem judgeEach_cases (judge : Node → Except String (List Note)) (ns : List Node) :
    ((ns ≠ [] ∧ ∀ n ∈ ns, ∃ reason, judge n = .error reason) ∧ ∃ reason, judgeEach judge ns = .error reason) ∨
      (¬ (ns ≠ [] ∧ ∀ n ∈ ns, ∃ reason, judge n = .error reason) ∧
        judgeEach judge ns = .ok (ns.flatMap (judged judge))) := by
  rw [← flatten_fitting, ← fitting_eq_nil_iff]
  unfold judgeEach
  dsimp only
  split
  · case h_1 reason hfit hreason =>
    have hne : ns ≠ [] := by
      rintro rfl
      cases hreason
    exact .inl ⟨⟨hne, hfit⟩, reason, rfl⟩
  · case h_2 hnone =>
    refine .inr ⟨?_, rfl⟩
    rintro ⟨hne, hfit⟩
    -- Where no judgement fits, the first node gives a reason.
    obtain ⟨n, r, rfl⟩ := List.exists_cons_of_ne_nil hne
    obtain ⟨reason, hn⟩ := fitting_eq_nil_iff.mp hfit n List.mem_cons_self
    refine hnone reason hfit ?_
    rw [List.map_cons, hn]
    rfl

theorem foundNodes_cases (selected : List Selected) :
    ((nodes selected = [] ∧ SomeMissing selected) ∧ ∃ reason, foundNodes selected = .error reason) ∨
      (¬ (nodes selected = [] ∧ SomeMissing selected) ∧ foundNodes selected = .ok (nodes selected)) := by
  unfold foundNodes
  split
  · case h_1 e hnodes hmissing =>
    have hsome : SomeMissing selected := by
      by_contra hnone
      rw [firstMissing_eq_none_iff.mpr hnone] at hmissing
      cases hmissing
    exact .inl ⟨⟨hnodes, hsome⟩, e.message, rfl⟩
  · case h_2 hnone =>
    refine .inr ⟨?_, rfl⟩
    rintro ⟨hnodes, hmissing⟩
    cases hfirst : firstMissing? selected with
    | none => exact firstMissing_eq_none_iff.mp hfirst hmissing
    | some e => exact hnone e hnodes hfirst

/-- What is found is judged node by node unless there is nothing to judge. -/
theorem verdict_cases (judge : Node → Except String (List Note)) (selected : List Selected) :
    (Unfit judge selected ∧ ∃ reason, (foundNodes selected >>= judgeEach judge) = .error reason) ∨
      (¬ Unfit judge selected ∧
        (foundNodes selected >>= judgeEach judge) = .ok ((nodes selected).flatMap (judged judge))) := by
  rcases foundNodes_cases selected with ⟨hnothing, reason, hfound⟩ | ⟨hsomething, hfound⟩
  · refine .inl ⟨.inl hnothing, reason, ?_⟩
    rw [hfound]
    rfl
  · have hbind : (foundNodes selected >>= judgeEach judge) = judgeEach judge (nodes selected) := by
      rw [hfound]
      rfl
    rw [hbind]
    rcases judgeEach_cases judge (nodes selected) with ⟨hnone, hreason⟩ | ⟨hsome, hnotes⟩
    · exact .inl ⟨.inr hnone, hreason⟩
    · refine .inr ⟨?_, hnotes⟩
      rintro (hnothing | hnone)
      · exact hsomething hnothing
      · exact hsome hnone

/-- Where there is nothing to judge, no node has anything said about it. -/
theorem judged_of_unfit {selected : List Selected} (h : Unfit judge selected) :
    (nodes selected).flatMap (judged judge) = [] := by
  rcases h with ⟨hnodes, -⟩ | ⟨-, hnone⟩
  · rw [hnodes]
    rfl
  · rw [List.flatMap_eq_nil_iff]
    intro n hn
    obtain ⟨reason, hreason⟩ := hnone n hn
    exact judged_of_error hreason

end Judging

/-! ## Findings -/

/-- Where a note is made of just the members of a list that have a property, the findings stand for these members, in
their order and one for each. -/
theorem forall₂_filterMap {α : Type} {p : α → Prop} [DecidablePred p] {g : α → Option Note} {f : Note → Finding}
    {R : α → Finding → Prop} {xs : List α} (hsome : ∀ x ∈ xs, p x → ∃ note, g x = some note ∧ R x (f note))
    (hnone : ∀ x ∈ xs, ¬ p x → g x = none) : List.Forall₂ R (xs.filter fun x => p x) ((xs.filterMap g).map f) := by
  induction xs with
  | nil => exact .nil
  | cons x r ih =>
    have hrest := ih (fun y hy => hsome y (List.mem_cons_of_mem x hy)) (fun y hy => hnone y (List.mem_cons_of_mem x hy))
    by_cases hx : p x
    · obtain ⟨note, hnote, hR⟩ := hsome x List.mem_cons_self hx
      have hkeep : (x :: r).filter (fun y => p y) = x :: r.filter fun y => p y :=
        List.filter_cons_of_pos (by simpa using hx)
      rw [hkeep, List.filterMap_cons_some hnote, List.map_cons]
      exact .cons hR hrest
    · have hnote := hnone x List.mem_cons_self hx
      have hdrop : (x :: r).filter (fun y => p y) = r.filter fun y => p y :=
        List.filter_cons_of_neg (by simpa using hx)
      rw [hdrop, List.filterMap_cons_none hnote]
      exact hrest

/-- The finding is one of the check about the node. -/
structure Check.About (c : Check) (n : Node) (f : Finding) : Prop where
  /-- It has the name of the check. -/
  rule : f.rule = c.name
  /-- It has the severity of the check. -/
  severity : f.severity = c.severity
  /-- It is at the path of the node. -/
  path : f.path = n.path
  /-- It is at the span of the node. -/
  span : f.span = n.span
  /-- It has the message of the check, if the check has one. -/
  message : ∀ m, c.message = some m → f.message = m

namespace Check

variable {c : Check} {judge : Node → Except String (List Note)}

theorem about_finding (c : Check) (note : Note) : c.About note.1 (c.finding note) where
  rule := rfl
  severity := rfl
  path := rfl
  span := rfl
  message := by
    intro m hm
    rw [finding, Finding.atNode, hm, Option.getD_some]

theorem evaluate_of_ok {root : Node} {notes : List Note} (h : c.family.judge (c.selector.select root) = .ok notes) :
    c.evaluate root = .findings (notes.map c.finding) := by
  rw [evaluate, h]

theorem evaluate_of_error {root : Node} {reason : String}
    (h : c.family.judge (c.selector.select root) = .error reason) : c.evaluate root = .inapplicable reason := by
  rw [evaluate, h]

/-- A check that applies has findings. -/
theorem evaluate_of_applies (c : Check) {root : Node} (h : ¬ ∃ reason, c.evaluate root = .inapplicable reason) :
    c.evaluate root = .findings (c.evaluate root).found := by
  rcases c.exists_notes root with hreason | ⟨notes, -, hfindings⟩
  · exact absurd hreason h
  · rw [hfindings]
    rfl

theorem exists_findings_iff {root : Node} :
    (∃ fs, c.evaluate root = .findings fs) ↔ ¬ ∃ reason, c.evaluate root = .inapplicable reason := by
  constructor
  · rintro ⟨fs, hfs⟩ ⟨reason, hreason⟩
    rw [hfs] at hreason
    cases hreason
  · intro h
    exact ⟨_, c.evaluate_of_applies h⟩

section

variable (hjudge : ∀ selected, c.family.judge selected = foundNodes selected >>= judgeEach judge) (root : Node)
include hjudge

/-- A check that judges node by node does not apply, or has findings about each node in the order of the nodes. -/
theorem outcome_cases :
    (Unfit judge (c.selector.select root) ∧ ∃ reason, c.evaluate root = .inapplicable reason) ∨
      (¬ Unfit judge (c.selector.select root) ∧
        c.evaluate root = .findings (((nodes (c.selector.select root)).flatMap (judged judge)).map c.finding)) := by
  rcases verdict_cases judge (c.selector.select root) with ⟨hunfit, reason, h⟩ | ⟨hfit, h⟩
  · exact .inl ⟨hunfit, reason, evaluate_of_error ((hjudge _).trans h)⟩
  · exact .inr ⟨hfit, evaluate_of_ok ((hjudge _).trans h)⟩

theorem inapplicable_iff :
    (∃ reason, c.evaluate root = .inapplicable reason) ↔ Unfit judge (c.selector.select root) := by
  rcases outcome_cases hjudge root with ⟨hunfit, hreason⟩ | ⟨hfit, hfindings⟩
  · exact ⟨fun _ => hunfit, fun _ => hreason⟩
  · constructor
    · rintro ⟨reason, h⟩
      rw [hfindings] at h
      cases h
    · intro hunfit
      exact absurd hunfit hfit

/-- Whether or not the check applies, its findings are those about each node. -/
theorem found_eq :
    (c.evaluate root).found = ((nodes (c.selector.select root)).flatMap (judged judge)).map c.finding := by
  rcases outcome_cases hjudge root with ⟨hunfit, reason, h⟩ | ⟨-, h⟩
  · rw [h, judged_of_unfit hunfit]
    rfl
  · rw [h]
    rfl

end

end Check

end DocLint
