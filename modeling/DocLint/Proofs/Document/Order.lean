import DocLint.Proofs.Document.Cutting

/-!
# Proofs: nodes lie in the text in their order

A node that was read starts before its children, and they lie one behind the other up to its end. So the
starts of the nodes grow along a document, parents before children: no two nodes start at the same place.
-/

namespace DocLint

open DocLint.Text DocLint.Json

/-! ## Spans inside a span -/

namespace Span

/-- The place of the first character. -/
def first (s : Span) : Nat × Nat := (s.startLine, s.startColumn)

/-- The place of the last character. -/
def last (s : Span) : Nat × Nat := (s.endLine, s.endColumn)

/-- The spans lie inside a span, behind its start and one behind the other. -/
structure Encloses (s : Span) (inner : List Span) : Prop where
  ordered : NotAfter s.first s.last
  inside : ∀ c ∈ inner, Earlier s.first c.first ∧ NotAfter c.last s.last
  apart : inner.Pairwise fun c d => Earlier c.last d.first

/-- A longer span encloses what the span encloses. -/
theorem Encloses.widen {s t : Span} {inner : List Span} (h : s.Encloses inner) (hfirst : NotAfter t.first s.first)
    (hlast : NotAfter s.last t.last) : t.Encloses inner where
  ordered := (hfirst.trans h.ordered).trans hlast
  inside c hc := ⟨hfirst.trans_earlier (h.inside c hc).1, (h.inside c hc).2.trans hlast⟩
  apart := h.apart

end Span

theorem stretch_ordered (a : List Char) {b : List Char} (hb : b ≠ []) :
    NotAfter (stretch a b).first (stretch a b).last := by
  have h := notAfter_append a b.dropLast
  rwa [← List.dropLast_append_of_ne_nil hb] at h

theorem encloses_nil (a : List Char) {b : List Char} (hb : b ≠ []) : (stretch a b).Encloses [] where
  ordered := stretch_ordered a hb
  inside _ hc := nomatch hc
  apart := List.Pairwise.nil

/-- The spans lie in the stretch `b` of a text that follows `a`, one behind the other. -/
structure InStretch (a b : List Char) (spans : List Span) : Prop where
  inside : ∀ s ∈ spans, NotAfter (place a) s.first ∧ NotAfter s.last (place (a ++ b).dropLast)
  apart : spans.Pairwise fun s t => Earlier s.last t.first

namespace InStretch

theorem nil (a b : List Char) : InStretch a b [] where
  inside _ hs := nomatch hs
  apart := List.Pairwise.nil

/-- A stretch in front of spans that lie in what follows it. -/
theorem cons {a x b y z : List Char} {spans : List Span} (hb : b ≠ [])
    (h : InStretch (a ++ (x ++ (b ++ y))) z spans) :
    InStretch a (x ++ (b ++ (y ++ z))) (stretch (a ++ x) b :: spans) where
  inside := by
    intro s hs
    rcases List.mem_cons.mp hs with rfl | hs
    · have hlast : NotAfter (stretch (a ++ x) b).last (place (a ++ x ++ b ++ (y ++ z)).dropLast) :=
        notAfter_dropLast_append (a ++ x ++ b) (y ++ z)
      exact ⟨notAfter_append a x, by simpa using hlast⟩
    · obtain ⟨hfirst, hlast⟩ := h.inside s hs
      refine ⟨(notAfter_append a _).trans hfirst, ?_⟩
      simpa using hlast
  apart := by
    refine List.pairwise_cons.mpr ⟨?_, h.apart⟩
    intro s hs
    have hend : Earlier (stretch (a ++ x) b).last (place (a ++ x ++ b)) := earlier_dropLast (by simp [hb])
    have hmore := notAfter_append (a ++ x ++ b) y
    have hfirst := (h.inside s hs).1
    rw [← List.append_assoc x, ← List.append_assoc, ← List.append_assoc] at hfirst
    exact hend.trans_notAfter (hmore.trans hfirst)

/-- A bracket in front of the spans starts a stretch that encloses them. -/
theorem encloses {a b : List Char} {c : Char} {spans : List Span} (h : InStretch (a ++ [c]) b spans) :
    (stretch a (c :: b)).Encloses spans where
  ordered := stretch_ordered a (List.cons_ne_nil c b)
  inside s hs := by
    obtain ⟨hfirst, hlast⟩ := h.inside s hs
    rw [List.append_assoc, List.singleton_append] at hlast
    exact ⟨(earlier_append a (List.cons_ne_nil c [])).trans_notAfter hfirst, hlast⟩
  apart := h.apart

end InStretch

/-! ## Nodes inside nodes -/

namespace Node

/-- The span of each node of the tree encloses those of its children. -/
def Nested (n : Node) : Prop :=
  ∀ m ∈ n.preorder, m.span.Encloses (m.children.map Node.span)

theorem nested_iff {n : Node} :
    n.Nested ↔ n.span.Encloses (n.children.map Node.span) ∧ ∀ c ∈ n.children, c.Nested := by
  constructor
  · intro h
    exact ⟨h n n.self_mem_preorder, fun c hc m hm => h m (mem_preorder_of_child hc hm)⟩
  · rintro ⟨hself, hchildren⟩ m hm
    rcases mem_preorder_iff.mp hm with rfl | ⟨c, hc, hm⟩
    · exact hself
    · exact hchildren c hc m hm

theorem children_withSpan (n : Node) (s : Span) : (n.withSpan s).children = n.children := by
  cases n <;> rfl

theorem Nested.withSpan {n : Node} (h : n.Nested) {s : Span} (hfirst : NotAfter s.first n.span.first)
    (hlast : NotAfter n.span.last s.last) : (n.withSpan s).Nested := by
  obtain ⟨hself, hchildren⟩ := nested_iff.mp h
  rw [nested_iff, span_withSpan, children_withSpan]
  exact ⟨hself.widen hfirst hlast, hchildren⟩

theorem spans_place (n : Node) (p : Path) :
    (n.place p).children.map Node.span = n.children.map Node.span := by
  simp [children_eq_map_branches, branches_place, span_place]

/-- Placing a tree moves no span. -/
theorem Nested.place {n : Node} : n.Nested → ∀ p, (n.place p).Nested := by
  induction n using children_induction with
  | step n ih =>
    intro h p
    obtain ⟨hself, hchildren⟩ := nested_iff.mp h
    rw [nested_iff, span_place, spans_place]
    refine ⟨hself, ?_⟩
    intro c hc
    rw [children_eq_map_branches, branches_place, List.map_map] at hc
    obtain ⟨b, hb, rfl⟩ := List.mem_map.mp hc
    have hchild : b.2 ∈ n.children := by
      rw [children_eq_map_branches]
      exact List.mem_map_of_mem hb
    exact ih b.2 hchild (hchildren b.2 hchild) _

/-- Whatever lies below a node lies inside its span. -/
theorem Nested.inside {n : Node} : n.Nested → ∀ m ∈ n.preorder,
    NotAfter n.span.first m.span.first ∧ NotAfter m.span.last n.span.last := by
  induction n using children_induction with
  | step n ih =>
    intro h m hm
    obtain ⟨hself, hchildren⟩ := nested_iff.mp h
    rcases mem_preorder_iff.mp hm with rfl | ⟨c, hc, hm⟩
    · exact ⟨NotAfter.refl _, NotAfter.refl _⟩
    · obtain ⟨hfirst, hlast⟩ := ih c hc (hchildren c hc) m hm
      obtain ⟨hstart, hend⟩ := hself.inside c.span (List.mem_map_of_mem hc)
      exact ⟨hstart.notAfter.trans hfirst, hlast.trans hend⟩

/-- Along a nested tree every node starts before the ones that follow it. -/
theorem Nested.pairwise_preorder {n : Node} :
    n.Nested → n.preorder.Pairwise fun m k => Earlier m.span.first k.span.first := by
  induction n using children_induction with
  | step n ih =>
    intro h
    obtain ⟨hself, hchildren⟩ := nested_iff.mp h
    rw [preorder_eq_cons, List.pairwise_cons, List.pairwise_flatMap]
    refine ⟨?_, fun c hc => ih c hc (hchildren c hc), ?_⟩
    · intro m hm
      obtain ⟨c, hc, hm⟩ := List.mem_flatMap.mp hm
      have hstart := (hself.inside c.span (List.mem_map_of_mem hc)).1
      exact hstart.trans_notAfter ((hchildren c hc).inside m hm).1
    · refine (List.pairwise_map.mp hself.apart).imp_of_mem ?_
      intro c d hc hd hcd m hm k hk
      -- The first of the two children ends before the second one starts.
      obtain ⟨-, hend⟩ := (hchildren c hc).inside m hm
      obtain ⟨hstart, -⟩ := (hchildren d hd).inside k hk
      have hordered := (hchildren c hc m hm).ordered
      exact ((hordered.trans hend).trans_earlier hcd).trans_notAfter hstart

end Node

/-! ## The trees of forms -/

theorem nested_of_children_nil {n : Node} (hchildren : n.children = []) (hspan : n.span.Encloses []) : n.Nested := by
  rw [Node.nested_iff, hchildren]
  exact ⟨hspan, fun c hc => nomatch hc⟩

/-- An entry lies in the text from its key on. -/
theorem nested_entry {a : List Char} {k : List Piece} {g g' : Gap} {t : Form} {e : String × Node}
    (he : entryTree k (stretch a (entryText k g g' t.text)) (t.tree (a ++ entryText k g g' [])) = .ok e)
    (ht : ∀ n, t.tree (a ++ entryText k g g' []) = .ok n → n.Nested) :
    e.2.span = stretch a (entryText k g g' t.text) ∧ e.2.Nested := by
  obtain ⟨name, n, -, hn, rfl⟩ := entryTree_eq_ok he
  refine ⟨Node.span_withSpan n _, (ht n hn).withSpan ?_ ?_⟩
  · rw [t.span_tree hn]
    exact notAfter_append a _
  · rw [t.span_tree hn]
    have htext : a ++ entryText k g g' [] ++ t.text = a ++ entryText k g g' t.text := by simp [entryText]
    show NotAfter (place (a ++ entryText k g g' [] ++ t.text).dropLast) _
    rw [htext]
    exact NotAfter.refl _

theorem entryText_ne_nil (k : List Piece) (g g' : Gap) (v : List Char) : entryText k g g' v ≠ [] := by
  simp [entryText, quotedText]

mutual

/-- The tree of a value is nested. -/
theorem Json.Form.nested_tree : ∀ (t : Form) {a : List Char} {n : Node}, t.tree a = .ok n → n.Nested
  | .leaf l, a, n, h => by
    have hspan := Form.span_tree h
    obtain ⟨v, -, rfl⟩ := map_eq_ok_iff.mp h
    exact nested_of_children_nil rfl (hspan ▸ encloses_nil a (Form.leaf l).text_ne_nil)
  | .emptyList g, a, n, h => by
    cases h
    exact nested_of_children_nil rfl (encloses_nil a (Form.emptyList g).text_ne_nil)
  | .list is, a, n, h => by
    obtain ⟨ns, hns, rfl⟩ := map_eq_ok_iff.mp h
    obtain ⟨hspans, hitems⟩ := is.nested_trees hns
    exact Node.nested_iff.mpr ⟨hspans.encloses, hitems⟩
  | .emptyObject g, a, n, h => by
    cases h
    exact nested_of_children_nil rfl (encloses_nil a (Form.emptyObject g).text_ne_nil)
  | .object es, a, n, h => by
    obtain ⟨ms, hms, rfl⟩ := map_eq_ok_iff.mp h
    obtain ⟨hspans, hentries⟩ := es.nested_trees hms
    refine Node.nested_iff.mpr ⟨?_, ?_⟩
    · rw [Node.children, List.map_map]
      exact hspans.encloses
    · intro c hc
      obtain ⟨m, hm, rfl⟩ := List.mem_map.mp hc
      exact hentries m hm

theorem Json.Items.nested_trees : ∀ (is : Items) {a : List Char} {ns : List Node}, is.trees a = .ok ns →
    InStretch a is.text (ns.map Node.span) ∧ ∀ n ∈ ns, n.Nested
  | .last b v c, a, ns, h => by
    obtain ⟨n, hn, rfl⟩ := map_eq_ok_iff.mp h
    have hspans := InStretch.cons (a := a) (x := b.chars) (y := c.chars) v.text_ne_nil (.nil _ [']'])
    rw [← v.span_tree hn] at hspans
    refine ⟨hspans, ?_⟩
    intro m hm
    cases List.mem_singleton.mp hm
    exact v.nested_tree hn
  | .more b v c is, a, ns, h => by
    obtain ⟨n, hn, h⟩ := bind_eq_ok_iff.mp h
    obtain ⟨ms, hms, h⟩ := bind_eq_ok_iff.mp h
    cases h
    obtain ⟨hrest, hitems⟩ := is.nested_trees hms
    have hspans := InStretch.cons v.text_ne_nil hrest
    have htext : (Items.more b v c is).text = b.chars ++ (v.text ++ (c.chars ++ [','] ++ is.text)) := by
      simp [Items.text]
    rw [← v.span_tree hn, ← htext] at hspans
    refine ⟨hspans, ?_⟩
    intro m hm
    rcases List.mem_cons.mp hm with rfl | hm
    · exact v.nested_tree hn
    · exact hitems m hm

theorem Json.Entries.nested_trees : ∀ (es : Entries) {a : List Char} {ms : List (String × Node)},
    es.trees a = .ok ms → InStretch a es.text (ms.map fun m => m.2.span) ∧ ∀ m ∈ ms, m.2.Nested
  | .last b k g g' v c, a, ms, h => by
    obtain ⟨e, he, rfl⟩ := map_eq_ok_iff.mp h
    obtain ⟨hspan, hentry⟩ := nested_entry he fun n hn => v.nested_tree hn
    have hspans := InStretch.cons (a := a) (x := b.chars) (y := c.chars) (entryText_ne_nil k g g' v.text)
      (.nil _ ['}'])
    rw [← hspan] at hspans
    refine ⟨hspans, ?_⟩
    intro m hm
    cases List.mem_singleton.mp hm
    exact hentry
  | .more b k g g' v c es, a, ms, h => by
    obtain ⟨e, he, h⟩ := bind_eq_ok_iff.mp h
    obtain ⟨ns, hns, h⟩ := bind_eq_ok_iff.mp h
    cases h
    obtain ⟨hspan, hentry⟩ := nested_entry he fun n hn => v.nested_tree hn
    obtain ⟨hrest, hentries⟩ := es.nested_trees hns
    have hspans := InStretch.cons (entryText_ne_nil k g g' v.text) hrest
    have htext : (Entries.more b k g g' v c es).text =
        b.chars ++ (entryText k g g' v.text ++ (c.chars ++ [','] ++ es.text)) := by
      simp [Entries.text]
    rw [← hspan, ← htext] at hspans
    refine ⟨hspans, ?_⟩
    intro m hm
    rcases List.mem_cons.mp hm with rfl | hm
    · exact hentry
    · exact hentries m hm

end

/-! ## Documents -/

theorem nested_of_read {source : String} {d : Document} (h : Document.read source = .ok d) : d.root.Nested := by
  obtain ⟨w, tree, -, htree, rfl⟩ := exists_tree_of_read h
  exact (w.form.nested_tree htree).place Path.root

/-- In a document that was read every node starts before the ones that follow it. -/
theorem pairwise_nodes_of_read {source : String} {d : Document} (h : Document.read source = .ok d) :
    d.nodes.Pairwise fun m k => Earlier m.span.first k.span.first :=
  (nested_of_read h).pairwise_preorder

end DocLint
