import DocLint.Proofs.Document.Tree
import Mathlib.Data.List.Forall2

/-!
# Proofs: trees that gain a child

A tree gains a child when one is put last into one of its containers, at whatever depth. The children that were there
before are still there, at their segments, since the new one comes after them: an index stays the index of the same
item, and a key still leads to its first entry. The nodes along the way to the container are the only ones that change,
and they remain containers at the same paths.
-/

namespace DocLint.Node

/-- The second tree is the first with one more child in one of its containers, after the children there. In a mapping
the child may have any key, even one that is taken. -/
inductive Gains : Node → Node → Prop where
  /-- One more item. -/
  | item (p : Path) (s : Span) (items : List Node) (child : Node) :
      Gains (sequence p s items) (sequence p s (items ++ [child]))
  /-- One more entry. -/
  | entry (p : Path) (s : Span) (entries : List (String × Node)) (key : String) (child : Node) :
      Gains (mapping p s entries) (mapping p s (entries ++ [(key, child)]))
  /-- One more child in an item. -/
  | inItem (p : Path) (s : Span) (before after : List Node) {n m : Node} (h : Gains n m) :
      Gains (sequence p s (before ++ n :: after)) (sequence p s (before ++ m :: after))
  /-- One more child in the node of an entry. -/
  | inEntry (p : Path) (s : Span) (before after : List (String × Node)) (key : String) {n m : Node} (h : Gains n m) :
      Gains (mapping p s (before ++ (key, n) :: after)) (mapping p s (before ++ (key, m) :: after))

/-- The second tree is the first, or the first with one more child. -/
def Keeps (n m : Node) : Prop :=
  m = n ∨ n.Gains m

theorem Keeps.refl (n : Node) : n.Keeps n :=
  .inl rfl

/-- An entry with the same key and at least the same children. -/
def EntryKeeps (e f : String × Node) : Prop :=
  f.1 = e.1 ∧ e.2.Keeps f.2

theorem EntryKeeps.refl (e : String × Node) : EntryKeeps e e :=
  ⟨rfl, .refl e.2⟩

/-! ## What a container that gains a child looks like -/

theorem forall₂_replace {α : Type} {R : α → α → Prop} (hrefl : ∀ a, R a a) {a b : α} (h : R a b)
    (before after : List α) : List.Forall₂ R (before ++ a :: after) (before ++ b :: after) := by
  have hsame : ∀ l : List α, List.Forall₂ R l l := fun l => List.forall₂_same.mpr fun x _ => hrefl x
  exact List.rel_append (hsame before) (.cons h (hsame after))

/-- A scalar gains nothing. A container keeps its children, each of which may have gained something, and more children
may follow. -/
theorem Gains.cases {n m : Node} (h : n.Gains m) :
    (∃ p s items front more, n = sequence p s items ∧ m = sequence p s (front ++ more) ∧
      List.Forall₂ Keeps items front) ∨
    (∃ p s entries front more, n = mapping p s entries ∧ m = mapping p s (front ++ more) ∧
      List.Forall₂ EntryKeeps entries front) := by
  cases h with
  | item p s items child =>
    exact .inl ⟨p, s, items, items, [child], rfl, rfl, List.forall₂_same.mpr fun c _ => .refl c⟩
  | entry p s entries key child =>
    exact .inr ⟨p, s, entries, entries, [(key, child)], rfl, rfl, List.forall₂_same.mpr fun e _ => .refl e⟩
  | inItem p s before after h =>
    refine .inl ⟨p, s, _, _, [], rfl, by rw [List.append_nil], ?_⟩
    exact forall₂_replace Keeps.refl (.inr h) before after
  | @inEntry p s before after key n m h =>
    have hentry : EntryKeeps (key, n) (key, m) := ⟨rfl, .inr h⟩
    refine .inr ⟨p, s, _, _, [], rfl, by rw [List.append_nil], ?_⟩
    exact forall₂_replace EntryKeeps.refl hentry before after

/-- What is not below a node stays the same. -/
theorem Keeps.same {n m : Node} (h : n.Keeps m) :
    m.path = n.path ∧ m.span = n.span ∧ m.kind = n.kind ∧ m.value? = n.value? := by
  rcases h with rfl | h
  · exact ⟨rfl, rfl, rfl, rfl⟩
  · rcases h.cases with ⟨p, s, items, front, more, rfl, rfl, -⟩ | ⟨p, s, entries, front, more, rfl, rfl, -⟩
    · exact ⟨rfl, rfl, rfl, rfl⟩
    · exact ⟨rfl, rfl, rfl, rfl⟩

theorem Keeps.children {n m : Node} (h : n.Keeps m) : List.SublistForall₂ Keeps n.children m.children := by
  rcases h with rfl | h
  · exact List.sublistForall₂_iff.mpr ⟨_, List.forall₂_same.mpr fun c _ => .refl c, List.Sublist.refl _⟩
  · rcases h.cases with ⟨p, s, items, front, more, rfl, rfl, hitems⟩ | ⟨p, s, entries, front, more, rfl, rfl, hentries⟩
    · exact List.sublistForall₂_iff.mpr ⟨front, hitems, List.sublist_append_left front more⟩
    · have hchildren : List.Forall₂ Keeps (entries.map (·.2)) (front.map (·.2)) := by
        rw [List.forall₂_map_left_iff, List.forall₂_map_right_iff]
        exact hentries.imp fun _ _ he => he.2
      refine List.sublistForall₂_iff.mpr ⟨_, hchildren, ?_⟩
      exact (List.sublist_append_left front more).map _

/-! ## Stepping into a child -/

theorem getElem?_of_forall₂ {α β : Type} {R : α → β → Prop} {xs : List α} {ys : List β} (h : List.Forall₂ R xs ys)
    {i : Nat} {x : α} (hx : xs[i]? = some x) : ∃ y, ys[i]? = some y ∧ R x y := by
  induction h generalizing i with
  | nil => cases hx
  | cons hR _ ih =>
    cases i with
    | zero =>
      cases hx
      exact ⟨_, rfl, hR⟩
    | succ i => exact ih hx

theorem find?_of_forall₂ {entries front : List (String × Node)} (h : List.Forall₂ EntryKeeps entries front)
    (more : List (String × Node)) {key : String} {c : Node} (hc : find? key entries = some c) :
    ∃ c', find? key (front ++ more) = some c' ∧ c.Keeps c' := by
  induction h with
  | nil => cases hc
  | @cons e f _ _ he _ ih =>
    unfold find? at *
    by_cases hkey : e.1 = key
    · have hkey' : f.1 = key := he.1.trans hkey
      simp only [List.find?_cons, hkey, decide_true, Option.map_some, Option.some.injEq] at hc
      simp only [List.cons_append, List.find?_cons, hkey', decide_true, Option.map_some, Option.some.injEq]
      exact ⟨f.2, rfl, hc ▸ he.2⟩
    · have hkey' : f.1 ≠ key := fun heq => hkey (he.1.symm.trans heq)
      simp only [List.find?_cons, hkey, decide_false] at hc
      simp only [List.cons_append, List.find?_cons, hkey', decide_false]
      exact ih hc

/-- Where there was a child under a segment, it still is. -/
theorem Keeps.child {n m c : Node} (h : n.Keeps m) {t : Segment} (hc : n.child? t = .ok c) :
    ∃ c', m.child? t = .ok c' ∧ c.Keeps c' := by
  rcases h with rfl | h
  · exact ⟨c, hc, .refl c⟩
  · rcases h.cases with ⟨p, s, items, front, more, rfl, rfl, hitems⟩ | ⟨p, s, entries, front, more, rfl, rfl, hentries⟩
    · cases t with
      | key k => cases hc
      | index i =>
        cases hi : items[i]? with
        | none => simp [child?, hi] at hc
        | some d =>
          simp only [child?, hi, Except.ok.injEq] at hc
          obtain ⟨c', hc', hkeeps⟩ := getElem?_of_forall₂ hitems hi
          obtain ⟨hlt, -⟩ := List.getElem?_eq_some_iff.mp hc'
          have happend : (front ++ more)[i]? = some c' := by rw [List.getElem?_append_left hlt, hc']
          exact ⟨c', by simp [child?, happend], hc ▸ hkeeps⟩
    · cases t with
      | index i => cases hc
      | key k =>
        cases hk : find? k entries with
        | none => simp [child?, hk] at hc
        | some d =>
          simp only [child?, hk, Except.ok.injEq] at hc
          obtain ⟨c', hc', hkeeps⟩ := find?_of_forall₂ hentries more hk
          exact ⟨c', by simp [child?, hc'], hc ▸ hkeeps⟩

/-! ## Keys -/

theorem map_fst_of_forall₂ {entries front : List (String × Node)} (h : List.Forall₂ EntryKeeps entries front) :
    front.map (·.1) = entries.map (·.1) := by
  induction h with
  | nil => rfl
  | cons he _ ih => rw [List.map_cons, List.map_cons, ih, he.1]

theorem Keeps.keys {n m : Node} (h : n.Keeps m) : n.keys.Sublist m.keys := by
  rcases h with rfl | h
  · exact List.Sublist.refl _
  · rcases h.cases with ⟨p, s, items, front, more, rfl, rfl, -⟩ | ⟨p, s, entries, front, more, rfl, rfl, hentries⟩
    · exact List.Sublist.refl _
    · simp only [Node.keys, List.map_append, map_fst_of_forall₂ hentries]
      exact List.sublist_append_left _ _

/-- A tree repeats no key if it repeats none with one more child. -/
theorem Keeps.unrepeated {n m : Node} (h : n.Keeps m) (hm : m.Unrepeated) : n.Unrepeated := by
  induction n using children_induction generalizing m with
  | step n ih =>
    intro x hx
    rcases mem_preorder_iff.mp hx with rfl | ⟨c, hc, hx⟩
    · exact List.Nodup.sublist h.keys (hm m m.self_mem_preorder)
    · obtain ⟨front, hfront, hsub⟩ := List.sublistForall₂_iff.mp h.children
      obtain ⟨i, hi⟩ := List.getElem?_of_mem hc
      obtain ⟨c', hc', hkeeps⟩ := getElem?_of_forall₂ hfront hi
      have hmem : c' ∈ m.children := hsub.subset (List.mem_of_getElem? hc')
      exact ih c hc hkeeps (hm.of_child hmem) x hx

/-! ## Documents -/

theorem placeItems_append (p : Path) (i : Nat) (xs ys : List Node) :
    placeItems p i (xs ++ ys) = placeItems p i xs ++ placeItems p (i + xs.length) ys := by
  rw [placeItems_eq_map, placeItems_eq_map, placeItems_eq_map, List.zipIdx_append, List.map_append]

theorem placeEntries_append (p : Path) (xs ys : List (String × Node)) :
    placeEntries p (xs ++ ys) = placeEntries p xs ++ placeEntries p ys := by
  rw [placeEntries_eq_map, placeEntries_eq_map, placeEntries_eq_map, List.map_append]

/-- The paths of the nodes that were there stay as they are. -/
theorem Gains.place {n m : Node} (h : n.Gains m) (p : Path) : (n.place p).Gains (m.place p) := by
  induction h generalizing p with
  | item q s items child =>
    rw [Node.place, Node.place, placeItems_append]
    exact .item p s _ _
  | entry q s entries key child =>
    rw [Node.place, Node.place, placeEntries_append]
    exact .entry p s _ key _
  | inItem q s before after _ ih =>
    rw [Node.place, Node.place, placeItems_append, placeItems_append]
    exact .inItem p s _ _ (ih _)
  | inEntry q s before after key _ ih =>
    rw [Node.place, Node.place, placeEntries_append, placeEntries_append]
    exact .inEntry p s _ _ key (ih _)

end DocLint.Node
