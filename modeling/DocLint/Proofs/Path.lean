import DocLint.Proofs.Document.Cutting
import DocLint.Proofs.Json.Encode
import DocLint.Proofs.Selector
import DocLint.Proofs.Selector.Language

/-!
# Proofs: written paths are selectors

A written path is read as the selector of its own segments. Each segment is written so that it ends where
the next one starts: a simple key goes on up to the next dot or bracket, a quoted key up to the first quote
that no backslash precedes, an index up to its bracket. So distinct paths are written differently, and the
written path of a node selects that node.
-/

namespace DocLint

open DocLint.Text DocLint.Json

namespace Selector

/-! ## One segment -/

theorem isBlank_of_isSimpleChar {c : Char} (h : Path.isSimpleChar c = true) : isBlank c = false := by
  have hrange : 45 ≤ c.toNat ∧ c.toNat ≤ 122 := by
    simp only [Path.isSimpleChar, isDigit, Bool.or_eq_true, Bool.and_eq_true, decide_eq_true_eq, Char.le_def,
      UInt32.le_iff_toNat_le] at h
    rcases h with (((h | h) | h) | rfl) | rfl
    · exact ⟨Nat.le_trans (by decide) h.1, h.2⟩
    · exact ⟨Nat.le_trans (by decide) h.1, Nat.le_trans h.2 (by decide)⟩
    · exact ⟨Nat.le_trans (by decide) h.1, Nat.le_trans h.2 (by decide)⟩
    · decide
    · decide
  simp [isBlank]
  omega

theorem endsName_of_isSimpleChar {c : Char} (h : Path.isSimpleChar c = true) : endsName c = false := by
  cases hc : endsName c with
  | false => rfl
  | true =>
    simp only [endsName, Bool.or_eq_true, decide_eq_true_eq] at hc
    rcases hc with rfl | rfl <;> exact absurd h (by decide)

theorem exists_of_isSimpleKey {k : List Char} (h : Path.isSimpleKey k = true) :
    ∃ c r, k = c :: r ∧ isDigit c = false ∧ ∀ d ∈ k, Path.isSimpleChar d = true := by
  cases k with
  | nil => exact absurd h (by decide)
  | cons c r =>
    simp only [Path.isSimpleKey, Bool.and_eq_true, Bool.not_eq_true'] at h
    exact ⟨c, r, rfl, h.1, List.all_eq_true.mp h.2⟩

/-- A simple key is neither a wildcard nor an index. -/
theorem nameText_simpleKey {k : List Char} (h : Path.isSimpleKey k = true) : NameText k (.key (String.ofList k)) := by
  obtain ⟨c, r, rfl, hdigit, hsimple⟩ := exists_of_isSimpleKey h
  have hstar : c :: r ≠ ['*'] := by
    intro heq
    have hchar : Path.isSimpleChar '*' = true := hsimple '*' (by rw [heq]; exact List.mem_cons_self)
    exact absurd hchar (by decide)
  exact .key (List.cons_ne_nil c r) hstar ⟨c, List.mem_cons_self, hdigit⟩

theorem solid_decimal (i : Nat) : Solid (decimal i) := by
  intro c hc
  apply isBlank_of_isDigit
  apply isDigit_of_mem_decimal
  rcases hc with hc | hc
  · exact List.mem_of_head? hc
  · exact List.mem_of_getLast? hc

/-- The step that leads from a node to its child under a segment. -/
def stepOf : Segment → Step
  | .key k => .key k
  | .index i => .index i

theorem stepOf_injective : Function.Injective stepOf := by
  intro s t h
  cases s <;> cases t <;> cases h <;> rfl

/-- A written segment is its step, as long as what follows ends a name. -/
theorem stepText_segment {s : Segment} (hs : ∀ i, s = .index i → i < wordLimit) {r : List Char}
    (hr : Stops (fun c => !endsName c) r) : StepText (Path.segmentChars s ++ r) (stepOf s) r := by
  cases s with
  | key k =>
    by_cases hk : Path.isSimpleKey k.toList = true
    · obtain ⟨-, -, -, -, hsimple⟩ := exists_of_isSimpleKey hk
      have hname : ∀ c ∈ k.toList, endsName c = false := fun c hc => endsName_of_isSimpleChar (hsimple c hc)
      have hstep := StepText.dot hname hr (nameText_simpleKey hk)
      rw [String.ofList_toList] at hstep
      rw [Path.segmentChars, if_pos hk, List.cons_append]
      exact hstep
    · have hstep := StepText.quote (r := r) (decode_encode k.toList)
      rw [String.ofList_toList] at hstep
      rw [Path.segmentChars, if_neg hk, List.cons_append, List.append_assoc]
      exact hstep
  | index i =>
    have hdigit : ∀ c ∈ decimal i, isDigit c = true := fun c hc => isDigit_of_mem_decimal hc
    have hclose : ∀ c ∈ decimal i, c ≠ ']' := by
      rintro c hc rfl
      exact absurd (hdigit _ hc) (by decide)
    have hquote : (decimal i).head? ≠ some '"' := by
      intro hc
      exact absurd (hdigit _ (List.mem_of_head? hc)) (by decide)
    rw [Path.segmentChars, List.cons_append, List.append_assoc, List.singleton_append]
    exact .bracket hclose hquote (solid_decimal i).trimmed (.index (wordText_decimal (hs i rfl)))

/-! ## Whole paths -/

theorem segmentChars_head (s : Segment) : ∃ c r, Path.segmentChars s = c :: r ∧ endsName c = true := by
  cases s with
  | key k =>
    by_cases hk : Path.isSimpleKey k.toList = true
    · exact ⟨'.', k.toList, by rw [Path.segmentChars, if_pos hk], by decide⟩
    · exact ⟨'[', encode k.toList ++ [']'], by rw [Path.segmentChars, if_neg hk], by decide⟩
  | index i => exact ⟨'[', decimal i ++ [']'], rfl, by decide⟩

/-- Written segments end a name that stands before them. -/
theorem stops_segments (p : Path) : Stops (fun c => !endsName c) (p.flatMap Path.segmentChars) := by
  cases p with
  | nil => exact stops_nil _
  | cons s p =>
    obtain ⟨c, r, hcr, hc⟩ := segmentChars_head s
    rw [List.flatMap_cons, hcr, List.cons_append, stops_cons, hc, Bool.not_true]

/-- Written segments are the sequence of their steps. -/
theorem stepsText_segments {p : Path} (hp : ∀ i, Segment.index i ∈ p → i < wordLimit) :
    StepsText (p.flatMap Path.segmentChars) (p.map stepOf) := by
  induction p with
  | nil => exact .nil
  | cons s p ih =>
    have hfirst : StepText (Path.segmentChars s ++ p.flatMap Path.segmentChars) (stepOf s)
        (p.flatMap Path.segmentChars) := by
      refine stepText_segment ?_ (stops_segments p)
      rintro i rfl
      exact hp i List.mem_cons_self
    rw [List.flatMap_cons]
    exact .cons hfirst (ih fun i hi => hp i (List.mem_cons_of_mem s hi))

theorem dotted_segments (p : Path) : Dotted (p.flatMap Path.segmentChars) (p.flatMap Path.segmentChars) := by
  cases p with
  | nil => exact .nil
  | cons s p =>
    obtain ⟨c, r, hcr, hc⟩ := segmentChars_head s
    rw [List.flatMap_cons, hcr, List.cons_append]
    exact .there hc

end Selector

namespace Path

theorem endsSolid_segmentChars (s : Segment) : EndsSolid (segmentChars s) := by
  cases s with
  | key k =>
    by_cases hk : isSimpleKey k.toList = true
    · obtain ⟨c, r, hcr, -, hsimple⟩ := Selector.exists_of_isSimpleKey hk
      have hne : k.toList ≠ [] := by
        rw [hcr]
        exact List.cons_ne_nil c r
      have hkey : EndsSolid k.toList := ⟨k.toList.dropLast, k.toList.getLast hne,
        (List.dropLast_concat_getLast hne).symm, Selector.isBlank_of_isSimpleChar (hsimple _ (List.getLast_mem hne))⟩
      rw [segmentChars, if_pos hk]
      exact hkey.append ['.']
    · rw [segmentChars, if_neg hk]
      exact ⟨'[' :: encode k.toList, ']', rfl, by decide⟩
  | index i => exact ⟨'[' :: decimal i, ']', rfl, by decide⟩

theorem endsSolid_chars (p : Path) : EndsSolid p.chars := by
  rcases List.eq_nil_or_concat p with rfl | ⟨q, s, rfl⟩
  · exact ⟨[], '$', rfl, by decide⟩
  · have htext : chars (q.concat s) = chars q ++ segmentChars s := by simp [chars]
    rw [htext]
    exact (endsSolid_segmentChars s).append (chars q)

/-- A written path has no white space at its ends. -/
theorem solid_chars (p : Path) : Solid p.chars := by
  rintro c (hc | hc)
  · have hdollar : '$' = c := Option.some.inj hc
    rw [← hdollar]
    decide
  · obtain ⟨r, d, hrd, hd⟩ := p.endsSolid_chars
    rw [hrd, List.getLast?_concat] at hc
    rw [← Option.some.inj hc]
    exact hd

/-- All indices of the path fit a 64-bit word. -/
def Fits (p : Path) : Prop :=
  ∀ i, Segment.index i ∈ p → i < wordLimit

/-- A written path is read as the selector of its segments. -/
theorem read_render {p : Path} (hp : p.Fits) :
    Selector.read p.render = .ok ⟨p.render, p.map Selector.stepOf⟩ := by
  have htext : p.render.toList = p.chars := String.toList_ofList
  have htrim : trim p.render = p.render := by
    rw [trim, htext, trimChars_eq_self p.solid_chars]
    rfl
  have hselector : Selector.SelectorText p.render.toList (p.map Selector.stepOf) := by
    rw [htext]
    exact ⟨p.chars, _, _, p.solid_chars.trimmed, .one, Selector.dotted_segments p, Selector.stepsText_segments hp⟩
  have hread := Selector.read_eq_ok_iff.mpr hselector
  rw [htrim] at hread
  exact hread

theorem render_injective {p q : Path} (hp : p.Fits) (hq : q.Fits) (h : q.render = p.render) : q = p := by
  have hread := read_render hq
  rw [h, read_render hp] at hread
  have hsteps : p.map Selector.stepOf = q.map Selector.stepOf := congrArg Selector.steps (Except.ok.inj hread)
  exact (List.map_injective_iff.mpr Selector.stepOf_injective hsteps).symm

end Path

/-- Behind the steps of a path, further steps are followed from the node that the path leads to. -/
theorem Node.select_append_of_resolve {n m : Node} {p : Path} (h : n.resolve p = .ok m) (r : List Step) :
    n.select (p.map Selector.stepOf ++ r) = m.select r := by
  induction p generalizing n with
  | nil =>
    cases h
    rfl
  | cons s p ih =>
    cases hget : n.get? s with
    | error e => simp [resolve, hget] at h
    | ok c =>
      have hc : c.resolve p = .ok m := by simpa [resolve, hget] using h
      have hselect := ih hc
      cases s with
      | key k => simpa [Selector.stepOf, select, hget] using hselect
      | index i => simpa [Selector.stepOf, select, hget] using hselect

/-- The steps of a path lead to the node that the path leads to, and nowhere else. -/
theorem Node.select_of_resolve {n m : Node} {p : Path} (h : n.resolve p = .ok m) :
    n.select (p.map Selector.stepOf) = [.found m] := by
  have hselect := select_append_of_resolve h []
  rw [List.append_nil] at hselect
  exact hselect

/-- Every path whose indices fit a 64-bit word is written so that it is read back, segment by segment: no two such paths
are written alike, and where no mapping repeats a key the written path of a node selects this node alone. -/
theorem path_read_back {p : Path} (hp : p.Fits) :
    (∃ s, Selector.read p.render = .ok s ∧ s.steps = p.map fun
      | .key k => .key k
      | .index i => .index i) ∧
    (∀ q : Path, q.Fits → q.render = p.render → q = p) ∧
    ∀ tree : Node, (Document.ofTree tree).root.Unrepeated → ∀ n ∈ (Document.ofTree tree).nodes, n.path = p →
      ∃ s, Selector.read p.render = .ok s ∧ s.select (Document.ofTree tree).root = [.found n] := by
  refine ⟨⟨_, Path.read_render hp, ?_⟩, fun q hq h => Path.render_injective hp hq h, ?_⟩
  · exact List.map_congr_left fun s _ => by cases s <;> rfl
  · rintro tree hkeys n hn rfl
    exact ⟨_, Path.read_render hp, Node.select_of_resolve (Document.resolve_path tree hkeys n hn)⟩

/-- An item below a key that is full of punctuation. -/
theorem path_read_back_punctuation :
    let k := String.ofList ['*', '.', '"', ']']
    let p : Path := [.key k, .index 0]
    let tree := Node.mapping [] Span.start [(k, .sequence [] Span.start [.scalar [] Span.start .null])]
    let leaf := Node.scalar p Span.start .null
    p.Fits ∧ (Document.ofTree tree).root.Unrepeated ∧ leaf ∈ (Document.ofTree tree).nodes ∧
      ∃ s, Selector.read p.render = .ok s ∧ s.steps = [.key k, .index 0] ∧
        s.select (Document.ofTree tree).root = [.found leaf] := by
  intro k p tree leaf
  have hp : p.Fits := by
    intro i hi
    simp only [p, List.mem_cons, List.not_mem_nil, Segment.index.injEq, reduceCtorEq, false_or, or_false] at hi
    subst hi
    decide
  have hkeys : (Document.ofTree tree).root.Unrepeated := by
    simp [tree, Document.ofTree, Node.place, Node.placeEntries, Node.placeItems, Node.Unrepeated, Node.preorder,
      Node.preorderEntries, Node.preorderItems, Node.keys]
  have hleaf : leaf ∈ (Document.ofTree tree).nodes := by
    simp [leaf, p, tree, Document.ofTree, Document.nodes, Node.place, Node.placeEntries, Node.placeItems,
      Node.preorder, Node.preorderEntries, Node.preorderItems, Path.child, Path.root]
  obtain ⟨⟨s, hs, hsteps⟩, -, hselect⟩ := path_read_back hp
  obtain ⟨s', hs', hfound⟩ := hselect tree hkeys leaf hleaf rfl
  cases hs.symm.trans hs'
  exact ⟨hp, hkeys, hleaf, s, hs, hsteps, hfound⟩

end DocLint
