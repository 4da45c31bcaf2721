import DocLint.Proofs.Check.Verdict
import DocLint.Proofs.Selector.Reach

/-!
# Proofs: required and forbidden paths

A required path (`eval_required`) complains of each branch that ends early, at the deepest node of the branch, and of
each node found that does not satisfy the condition. A forbidden path (`eval_forbidden`) complains of each node found.
So without a condition every branch gives one of the two a finding and the other none.

Where a branch ends early is told by the document: the node is what its path leads to, and the next step leads on to
nothing.
-/

namespace DocLint

/-! ## Conditions -/

/-- The node does not satisfy the condition: it is null or, where it must not be empty, a string of white space. -/
def Condition.Refuses (c : Condition) (n : Node) : Prop :=
  n.value? = some .null ∨
    (c = .notEmpty ∧ ∃ s, n.value? = some (.string s) ∧ ∀ ch ∈ s.toList, Text.isBlank ch = true)

theorem Condition.holds_eq_false_iff {c : Condition} {v : Scalar} :
    c.holds v = false ↔
      v = .null ∨ (c = .notEmpty ∧ ∃ s, v = .string s ∧ ∀ ch ∈ s.toList, Text.isBlank ch = true) := by
  cases v with
  | null => simp [holds]
  | boolean b => cases c <;> simp [holds]
  | number x => cases c <;> simp [holds]
  | string s => cases c <;> simp [holds, Text.isBlankText]

theorem Condition.refuses_iff {c : Condition} {n : Node} :
    c.Refuses n ↔ ∃ v, n.value? = some v ∧ c.holds v = false := by
  unfold Refuses
  cases n.value? with
  | none => simp
  | some v => simp [holds_eq_false_iff]

/-- No container is refused. -/
theorem Condition.not_refuses_of_container {c : Condition} {n : Node} (h : n.kind ≠ .scalar) : ¬ c.Refuses n := by
  rw [refuses_iff]
  rintro ⟨v, hv, -⟩
  cases n with
  | scalar p s w => exact h rfl
  | sequence p s items => cases hv
  | mapping p s entries => cases hv

/-! ## Required paths -/

/-- What a required path complains of: a branch that ends early, or a node that does not satisfy the condition. -/
def Selected.Lacking (condition : Option Condition) : Selected → Prop
  | .missing .. => True
  | .found n => ∃ c, condition = some c ∧ c.Refuses n

theorem requiredNote_found (condition : Option Condition) (n : Node) :
    (∀ c, condition = some c → c.Refuses n →
      requiredNote condition (.found n) = some (n, n.path.render ++ " must be " ++ c.text)) ∧
    ((∀ c, condition = some c → ¬ c.Refuses n) → requiredNote condition (.found n) = none) := by
  cases condition with
  | none => simp [requiredNote]
  | some c =>
    constructor
    · intro c' hc' hrefuses
      cases hc'
      obtain ⟨v, hv, hholds⟩ := Condition.refuses_iff.mp hrefuses
      simp [requiredNote, hv, hholds]
    · intro hfits
      have hc := hfits c rfl
      rw [Condition.refuses_iff] at hc
      cases hv : n.value? with
      | none => simp [requiredNote, hv]
      | some v =>
        have hholds : c.holds v = true := by
          by_contra hfalse
          exact hc ⟨v, hv, by simpa using hfalse⟩
        simp [requiredNote, hv, hholds]

theorem requiredNote_isSome_iff {condition : Option Condition} {x : Selected} :
    (requiredNote condition x).isSome = true ↔ x.Lacking condition := by
  cases x with
  | missing n e => simp [requiredNote, Selected.Lacking]
  | found n =>
    obtain ⟨hrefused, hfits⟩ := requiredNote_found condition n
    constructor
    · intro hsome
      by_contra hnot
      have hnone := hfits fun c hc hrefuses => hnot ⟨c, hc, hrefuses⟩
      rw [hnone] at hsome
      cases hsome
    · rintro ⟨c, hc, hrefuses⟩
      rw [hrefused c hc hrefuses]
      rfl

instance (condition : Option Condition) : DecidablePred (Selected.Lacking condition) := fun _ =>
  decidable_of_iff _ requiredNote_isSome_iff

/-- A branch of the selector ends at the node, since its next step, to the segment `t`, leads nowhere. -/
structure Document.BranchEnds (d : Document) (s : Selector) (n : Node) (t : Segment) : Prop where
  /-- The steps before that match the path of the node. -/
  steps : ∃ before after, s.steps = before ++ Selector.stepOf t :: after ∧ List.Forall₂ Step.Matches before n.path
  /-- The node is in the document, where its path leads to. -/
  present : d.resolve n.path = .ok n
  /-- One step on from it there is nothing. -/
  absent : ∀ m, d.resolve (n.path.child t) ≠ .ok m

theorem Document.exists_branchEnds {tree : Node} (hkeys : (ofTree tree).root.Unrepeated) {s : Selector} {n : Node}
    {e : NotFound} (h : .missing n e ∈ s.select (ofTree tree).root) :
    ∃ t, e.path = n.path.child t ∧ (ofTree tree).BranchEnds s n t := by
  have hplaced := placed_ofTree tree
  obtain ⟨before, t, after, p, hsteps, hmatch, ⟨hn, hpath⟩, hget⟩ :=
    (Node.missing_mem_select_iff hplaced hkeys s.steps).mp h
  rw [path_root_ofTree, List.nil_append] at hpath
  have hpresent : (ofTree tree).resolve n.path = .ok n := resolve_path tree hkeys n hn
  have herror := (Node.get_eq_error_iff.mp hget).2
  refine ⟨t, herror, ⟨before, after, hsteps, hpath ▸ hmatch⟩, hpresent, ?_⟩
  intro m hm
  have hchild : (ofTree tree).resolve (n.path.child t) = n.get? t := Node.resolve_child hpresent t
  rw [hchild, hget] at hm
  cases hm

/-- The finding that a required path has about a branch. -/
inductive Check.ReportsLack (c : Check) (d : Document) (condition : Option Condition) : Selected → Finding → Prop where
  /-- A branch ends early. The finding is at its deepest node and names the path that does not exist. -/
  | absent {n : Node} {e : NotFound} {t : Segment} (ends : d.BranchEnds c.selector n t) :
      ReportsLack c d condition (.missing n e)
        (c.finding (n, "required path " ++ (n.path.child t).render ++ " is missing"))
  /-- A node does not satisfy the condition. The finding is at the node. -/
  | refused {n : Node} {wanted : Condition} (h : condition = some wanted) (refuses : wanted.Refuses n) :
      ReportsLack c d condition (.found n) (c.finding (n, n.path.render ++ " must be " ++ wanted.text))

theorem Check.forall₂_reportsLack {tree : Node} (hkeys : (Document.ofTree tree).root.Unrepeated) (c : Check)
    (condition : Option Condition) :
    let selected := c.selector.select (Document.ofTree tree).root
    List.Forall₂ (c.ReportsLack (Document.ofTree tree) condition) (selected.filter fun x => x.Lacking condition)
      ((selected.filterMap (requiredNote condition)).map c.finding) := by
  intro selected
  apply forall₂_filterMap
  · intro x hx hlacking
    cases x with
    | missing n e =>
      obtain ⟨t, hpath, hends⟩ := Document.exists_branchEnds hkeys hx
      refine ⟨_, rfl, ?_⟩
      rw [hpath]
      exact .absent hends
    | found n =>
      obtain ⟨wanted, hwanted, hrefuses⟩ := hlacking
      exact ⟨_, (requiredNote_found condition n).1 wanted hwanted hrefuses, .refused hwanted hrefuses⟩
  · intro x _ hnot
    rw [← requiredNote_isSome_iff] at hnot
    exact Option.not_isSome_iff_eq_none.mp hnot

/-! ## Forbidden paths -/

theorem filterMap_forbiddenNote (selected : List Selected) :
    selected.filterMap forbiddenNote =
      (Selected.nodes selected).map fun n => (n, "forbidden path " ++ n.path.render ++ " is present") := by
  induction selected with
  | nil => rfl
  | cons x r ih =>
    cases x with
    | found n =>
      have hnote : forbiddenNote (.found n) = some (n, "forbidden path " ++ n.path.render ++ " is present") := rfl
      rw [List.filterMap_cons_some hnote, Selected.nodes, List.map_cons, ih]
    | missing n e =>
      have hnote : forbiddenNote (.missing n e) = none := rfl
      rw [List.filterMap_cons_none hnote, Selected.nodes, ih]

/-! ## Both together -/

/-- Without a condition each branch is complained of by just one of the two. -/
theorem length_required_add_forbidden (selected : List Selected) :
    (selected.filterMap (requiredNote none)).length + (selected.filterMap forbiddenNote).length = selected.length := by
  induction selected with
  | nil => rfl
  | cons x r ih =>
    cases x with
    | found n =>
      have hrequired : requiredNote none (.found n) = none := rfl
      have hforbidden : ∃ note, forbiddenNote (.found n) = some note := ⟨_, rfl⟩
      obtain ⟨note, hnote⟩ := hforbidden
      rw [List.filterMap_cons_none hrequired, List.filterMap_cons_some hnote, List.length_cons, List.length_cons]
      omega
    | missing n e =>
      have hrequired : ∃ note, requiredNote none (.missing n e) = some note := ⟨_, rfl⟩
      have hforbidden : forbiddenNote (.missing n e) = none := rfl
      obtain ⟨note, hnote⟩ := hrequired
      rw [List.filterMap_cons_some hnote, List.filterMap_cons_none hforbidden, List.length_cons, List.length_cons]
      omega

/-- Steps without wildcards have one branch. -/
theorem Node.length_select (n : Node) {steps : List Step} (h : .any ∉ steps) : (n.select steps).length = 1 := by
  induction steps generalizing n with
  | nil => rfl
  | cons s r ih =>
    have hs : s ≠ .any := fun heq => h (heq ▸ List.mem_cons_self)
    have hr : .any ∉ r := fun hmem => h (List.mem_cons_of_mem s hmem)
    rcases select_step n hs r with ⟨c, -, hselect⟩ | ⟨e, hselect⟩
    · rw [hselect]
      exact ih c hr
    · rw [hselect]
      rfl

/-- In a document without repeated keys, a required path has one finding for each branch that ends early and for each
scalar that does not satisfy the condition, a forbidden path has one for each node found, and neither has any other. The
findings are in the order of the branches, at distinct places. Without a condition the two together have as many
findings as there are branches; and if there is no wildcard, one of them has one finding and the other none. -/
theorem required_and_forbidden (tree : Node) (hkeys : (Document.ofTree tree).root.Unrepeated) (a b : Check)
    (s : Selector) (condition : Option Condition) :
    let d := Document.ofTree tree
    let selected := s.select d.root
    let required : Check := { a with selector := s, family := .required condition }
    let forbidden : Check := { b with selector := s, family := .forbidden }
    ∃ lacks presences : List Finding,
      required.evaluate d.root = .findings lacks ∧ forbidden.evaluate d.root = .findings presences ∧
      List.Forall₂ (required.ReportsLack d condition) (selected.filter fun x => x.Lacking condition) lacks ∧
      (∀ n, n.kind ≠ .scalar → ¬ (Selected.found n).Lacking condition) ∧
      presences = (Selected.nodes selected).map
        (fun n => forbidden.finding (n, "forbidden path " ++ n.path.render ++ " is present")) ∧
      (lacks.map (·.path)).Nodup ∧ (presences.map (·.path)).Nodup ∧
      (condition = none → lacks.length + presences.length = selected.length ∧
        (.any ∉ s.steps → (lacks.length = 1 ∧ presences = []) ∨ (lacks = [] ∧ presences.length = 1))) := by
  intro d selected required forbidden
  have hplaced : d.root.Placed := Document.placed_ofTree tree
  have hrequired : required.evaluate d.root =
      .findings ((selected.filterMap (requiredNote condition)).map required.finding) := rfl
  have hforbidden : forbidden.evaluate d.root =
      .findings ((selected.filterMap forbiddenNote).map forbidden.finding) := rfl
  refine ⟨_, _, hrequired, hforbidden, required.forall₂_reportsLack hkeys condition, ?_, ?_, ?_, ?_, ?_⟩
  · rintro n hn ⟨wanted, -, hrefuses⟩
    exact Condition.not_refuses_of_container hn hrefuses
  · rw [filterMap_forbiddenNote, List.map_map]
    rfl
  · have hpaths := required.nodup_paths hplaced hkeys
    rwa [hrequired] at hpaths
  · have hpaths := forbidden.nodup_paths hplaced hkeys
    rwa [hforbidden] at hpaths
  · intro hnone
    have hcount := length_required_add_forbidden selected
    rw [hnone, List.length_map, List.length_map]
    refine ⟨hcount, fun hplain => ?_⟩
    have hone : selected.length = 1 := d.root.length_select hplain
    rcases hlacks : selected.filterMap (requiredNote none) with _ | ⟨note, more⟩
    · rw [hlacks, List.length_nil] at hcount
      exact .inr ⟨rfl, by omega⟩
    · rw [hlacks, List.length_cons] at hcount
      have hpresences : selected.filterMap forbiddenNote = [] := List.length_eq_zero_iff.mp (by omega)
      have hmore : more = [] := List.length_eq_zero_iff.mp (by omega)
      rw [hpresences, hmore]
      exact .inl ⟨rfl, rfl⟩

/-- The titles of two sections, of which the first is null and the second is missing. Required, both are complained of;
forbidden, the first is. -/
theorem required_and_forbidden_titles :
    let a := String.ofList ['a']
    let t := String.ofList ['t']
    let tree := Node.mapping [] Span.start
      [(a, .sequence [] Span.start
        [.mapping [] Span.start [(t, .scalar [] Span.start .null)], .mapping [] Span.start []])]
    let d := Document.ofTree tree
    let s : Selector := ⟨String.ofList ['a', '.', '*', '.', 't'], [.key a, .any, .key t]⟩
    let required : Check := ⟨t, .error, none, s, .required (some .notNull)⟩
    let forbidden : Check := ⟨a, .error, none, s, .forbidden⟩
    d.root.Unrepeated ∧ ∃ lacks presences : List Finding,
      required.evaluate d.root = .findings lacks ∧ forbidden.evaluate d.root = .findings presences ∧
      lacks.length = 2 ∧ (lacks.map (·.path)).Nodup ∧
      presences.map (·.path) = [[.key a, .index 0, .key t]] := by
  intro a t tree d s required forbidden
  have hkeys : d.root.Unrepeated := by
    simp [d, tree, Document.ofTree, Node.place, Node.placeEntries, Node.placeItems, Node.Unrepeated, Node.preorder,
      Node.preorderEntries, Node.preorderItems, Node.keys]
  obtain ⟨lacks, presences, hrequired, hforbidden, hlacks, -, hpresences, hnodup, -, -⟩ :=
    required_and_forbidden tree hkeys required forbidden s (some .notNull)
  refine ⟨hkeys, lacks, presences, hrequired, hforbidden, ?_, hnodup, ?_⟩
  · rw [← hlacks.length_eq]
    rfl
  · rw [hpresences]
    rfl

end DocLint
