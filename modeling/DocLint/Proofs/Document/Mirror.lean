import DocLint.Proofs.Document.Reading

/-!
# Proofs: a document mirrors its text

A tree mirrors a form if both nest the same way, have the same children in the same order, and every key
and scalar is what its literal is decoded to. A text gives a document exactly if it is the text of a form
whose literals all have values, and then the document mirrors the form. A text that passed the check and
gives no document fails with the fault of its first literal without a value.
-/

namespace DocLint

open DocLint.Text DocLint.Json Cursor

mutual

/-- The node mirrors the value; its path and span do not matter. -/
inductive Json.Form.Mirrors : Form → Node → Prop where
  /-- A literal and the scalar that it stands for. -/
  | leaf {l : Leaf} {v : Scalar} {p : Path} {s : Span} (value : l.decode = .ok v) :
      Form.Mirrors (.leaf l) (.scalar p s v)
  /-- A list without items. -/
  | emptyList {g : Gap} {p : Path} {s : Span} : Form.Mirrors (.emptyList g) (.sequence p s [])
  /-- A list with items. -/
  | list {is : Items} {ns : List Node} {p : Path} {s : Span} (items : Items.Mirrors is ns) :
      Form.Mirrors (.list is) (.sequence p s ns)
  /-- An object without entries. -/
  | emptyObject {g : Gap} {p : Path} {s : Span} : Form.Mirrors (.emptyObject g) (.mapping p s [])
  /-- An object with entries. -/
  | object {es : Entries} {ms : List (String × Node)} {p : Path} {s : Span}
      (entries : Entries.Mirrors es ms) : Form.Mirrors (.object es) (.mapping p s ms)

/-- The nodes mirror the items of a list, one by one. -/
inductive Json.Items.Mirrors : Items → List Node → Prop where
  /-- The last item. -/
  | last {b c : Gap} {v : Form} {n : Node} (value : Form.Mirrors v n) : Items.Mirrors (.last b v c) [n]
  /-- An item and more. -/
  | more {b c : Gap} {v : Form} {is : Items} {n : Node} {ns : List Node} (value : Form.Mirrors v n)
      (rest : Items.Mirrors is ns) : Items.Mirrors (.more b v c is) (n :: ns)

/-- The keys and nodes mirror the entries of an object, one by one. -/
inductive Json.Entries.Mirrors : Entries → List (String × Node) → Prop where
  /-- The last entry. -/
  | last {b g g' c : Gap} {k : List Piece} {v : Form} {name : List Char} {n : Node}
      (key : Json.decode (quotedText k) = .ok name) (value : Form.Mirrors v n) :
      Entries.Mirrors (.last b k g g' v c) [(String.ofList name, n)]
  /-- An entry and more. -/
  | more {b g g' c : Gap} {k : List Piece} {v : Form} {es : Entries} {name : List Char} {n : Node}
      {ms : List (String × Node)} (key : Json.decode (quotedText k) = .ok name) (value : Form.Mirrors v n)
      (rest : Entries.Mirrors es ms) :
      Entries.Mirrors (.more b k g g' v c es) ((String.ofList name, n) :: ms)

end

/-! ## The tree of a form mirrors it -/

theorem Json.Form.Mirrors.withSpan {t : Form} {n : Node} (h : t.Mirrors n) (s : Span) :
    t.Mirrors (n.withSpan s) := by
  cases h with
  | leaf hv => exact .leaf hv
  | emptyList => exact .emptyList
  | list hi => exact .list hi
  | emptyObject => exact .emptyObject
  | object he => exact .object he

mutual

theorem Json.Form.Mirrors.place : ∀ {t : Form} {n : Node}, t.Mirrors n → ∀ p : Path, t.Mirrors (n.place p)
  | _, _, .leaf hv, _ => .leaf hv
  | _, _, .emptyList, _ => .emptyList
  | _, _, .list hi, p => .list (hi.place p 0)
  | _, _, .emptyObject, _ => .emptyObject
  | _, _, .object he, p => .object (he.place p)

theorem Json.Items.Mirrors.place : ∀ {is : Items} {ns : List Node}, is.Mirrors ns →
    ∀ (p : Path) (i : Nat), is.Mirrors (Node.placeItems p i ns)
  | _, _, .last hv, _, _ => .last (hv.place _)
  | _, _, .more hv hr, p, i => .more (hv.place _) (hr.place p (i + 1))

theorem Json.Entries.Mirrors.place : ∀ {es : Entries} {ms : List (String × Node)}, es.Mirrors ms →
    ∀ p : Path, es.Mirrors (Node.placeEntries p ms)
  | _, _, .last hk hv, _ => .last hk (hv.place _)
  | _, _, .more hk hv hr, p => .more hk (hv.place _) (hr.place p)

end

theorem entryTree_eq_ok {k : List Piece} {s : Span} {value : Except Fault Node} {e : String × Node}
    (h : entryTree k s value = .ok e) :
    ∃ name n, Json.decode (quotedText k) = .ok name ∧ value = .ok n ∧ e = (String.ofList name, n.withSpan s) := by
  obtain ⟨name, hname, h⟩ := bind_eq_ok_iff.mp h
  obtain ⟨n, hn, h⟩ := bind_eq_ok_iff.mp h
  cases h
  exact ⟨name, n, hname, hn, rfl⟩

mutual

theorem Json.Form.mirrors_tree : ∀ (t : Form) {a : List Char} {n : Node}, t.tree a = .ok n → t.Mirrors n
  | .leaf l, a, n, h => by
    obtain ⟨v, hv, rfl⟩ := map_eq_ok_iff.mp h
    exact .leaf hv
  | .emptyList g, a, n, h => by
    cases h
    exact .emptyList
  | .list is, a, n, h => by
    obtain ⟨ns, hns, rfl⟩ := map_eq_ok_iff.mp h
    exact .list (is.mirrors_trees hns)
  | .emptyObject g, a, n, h => by
    cases h
    exact .emptyObject
  | .object es, a, n, h => by
    obtain ⟨ms, hms, rfl⟩ := map_eq_ok_iff.mp h
    exact .object (es.mirrors_trees hms)

theorem Json.Items.mirrors_trees : ∀ (is : Items) {a : List Char} {ns : List Node}, is.trees a = .ok ns →
    is.Mirrors ns
  | .last b v c, a, ns, h => by
    obtain ⟨n, hn, rfl⟩ := map_eq_ok_iff.mp h
    exact .last (v.mirrors_tree hn)
  | .more b v c is, a, ns, h => by
    obtain ⟨n, hn, h⟩ := bind_eq_ok_iff.mp h
    obtain ⟨ms, hms, h⟩ := bind_eq_ok_iff.mp h
    cases h
    exact .more (v.mirrors_tree hn) (is.mirrors_trees hms)

theorem Json.Entries.mirrors_trees : ∀ (es : Entries) {a : List Char} {ms : List (String × Node)},
    es.trees a = .ok ms → es.Mirrors ms
  | .last b k g g' v c, a, ms, h => by
    obtain ⟨e, he, rfl⟩ := map_eq_ok_iff.mp h
    obtain ⟨name, n, hname, hn, rfl⟩ := entryTree_eq_ok he
    exact .last hname ((v.mirrors_tree hn).withSpan _)
  | .more b k g g' v c es, a, ms, h => by
    obtain ⟨e, he, h⟩ := bind_eq_ok_iff.mp h
    obtain ⟨ms', hms, h⟩ := bind_eq_ok_iff.mp h
    obtain ⟨name, n, hname, hn, rfl⟩ := entryTree_eq_ok he
    cases h
    exact .more hname ((v.mirrors_tree hn).withSpan _) (es.mirrors_trees hms)

end

/-! ## The first literal without a value -/

/-- The fault of a computation that fails. -/
def fault? {α : Type} : Except Fault α → Option Fault
  | .ok _ => none
  | .error f => some f

/-- The fault of the first literal without a value. -/
def firstFault (ls : List Leaf) : Option Fault :=
  ls.findSome? fun l => fault? l.decode

theorem firstFault_append (a b : List Leaf) : firstFault (a ++ b) = (firstFault a).or (firstFault b) := by
  simp [firstFault, List.findSome?_append]

theorem firstFault_singleton (l : Leaf) : firstFault [l] = fault? l.decode := by
  simp [firstFault]

theorem fault_map {α β : Type} (x : Except Fault α) (f : α → β) : fault? (x.map f) = fault? x := by
  cases x <;> rfl

theorem fault_bind_map {α β γ : Type} (x : Except Fault α) (y : Except Fault β) (f : α → β → γ) :
    fault? (x >>= fun a => y >>= fun b => pure (f a b)) = (fault? x).or (fault? y) := by
  cases x <;> cases y <;> rfl

theorem fault_entryTree (k : List Piece) (s : Span) (value : Except Fault Node) :
    fault? (entryTree k s value) = (firstFault [.string k]).or (fault? value) := by
  rw [entryTree, fault_bind_map, firstFault_singleton, Leaf.decode, fault_map]

mutual

/-- A value is refused with the fault of its first literal without a value. -/
theorem Json.Form.fault_tree : ∀ (t : Form) (a : List Char), fault? (t.tree a) = firstFault t.leaves
  | .leaf l, a => by rw [Form.tree, fault_map, Form.leaves, firstFault_singleton]
  | .emptyList g, a => rfl
  | .list is, a => by rw [Form.tree, fault_map, is.fault_trees, Form.leaves]
  | .emptyObject g, a => rfl
  | .object es, a => by rw [Form.tree, fault_map, es.fault_trees, Form.leaves]

theorem Json.Items.fault_trees : ∀ (is : Items) (a : List Char), fault? (is.trees a) = firstFault is.leaves
  | .last b v c, a => by rw [Items.trees, fault_map, v.fault_tree, Items.leaves]
  | .more b v c is, a => by
    rw [Items.trees, fault_bind_map, v.fault_tree, is.fault_trees, Items.leaves, firstFault_append]

theorem Json.Entries.fault_trees : ∀ (es : Entries) (a : List Char), fault? (es.trees a) = firstFault es.leaves
  | .last b k g g' v c, a => by
    rw [Entries.trees, fault_map, fault_entryTree, v.fault_tree, ← firstFault_append, Entries.leaves,
      List.singleton_append]
  | .more b k g g' v c es, a => by
    rw [Entries.trees, fault_bind_map, fault_entryTree, v.fault_tree, es.fault_trees, ← firstFault_append,
      ← firstFault_append, Entries.leaves, List.singleton_append, List.cons_append]

end

theorem fault_eq_none_iff (l : Leaf) : fault? l.decode = none ↔ l.Decodable := by
  rw [← l.exists_decode_iff_decodable]
  cases l.decode <;> simp [fault?]

theorem firstFault_eq_none_iff (ls : List Leaf) : firstFault ls = none ↔ ∀ l ∈ ls, l.Decodable := by
  simp [firstFault, List.findSome?_eq_none_iff, fault_eq_none_iff]

theorem firstFault_eq_some_iff {ls : List Leaf} {f : Fault} :
    firstFault ls = some f ↔
      ∃ before l after, ls = before ++ l :: after ∧ (∀ m ∈ before, m.Decodable) ∧ l.decode = .error f := by
  have hfault : ∀ l : Leaf, fault? l.decode = some f ↔ l.decode = .error f := by
    intro l
    cases l.decode <;> simp [fault?]
  simp only [firstFault, List.findSome?_eq_some_iff, fault_eq_none_iff, hfault]
  constructor
  · rintro ⟨before, l, after, hls, hl, hbefore⟩
    exact ⟨before, l, after, hls, hbefore, hl⟩
  · rintro ⟨before, l, after, hls, hbefore, hl⟩
    exact ⟨before, l, after, hls, hl, hbefore⟩

/-! ## Whole texts -/

/-- The cursor comes out behind the value, in front of the white space at the end. -/
theorem text_writing (w : Writing) :
    Reader.text w.text =
      outcome (w.form.tree w.before.chars) (behind (w.before.chars ++ w.form.text) w.after.chars) := by
  have hskip := skipSpace_behind (a := []) w.before (w.form.stops_space w.after.chars)
  rw [List.nil_append, ← Writing.text] at hskip
  have hlen : w.form.text.length ≤ 2 * w.text.length + 2 := by
    simp only [Writing.text, List.length_append]
    omega
  rw [Reader.text, start_eq_behind, hskip]
  exact w.form.value_text _ _ _ hlen w.after.endsLiteral_end

/-- A text that passed the check gives the document of its tree, or the fault of a literal. -/
theorem read_writing {source : String} {w : Writing} (h : w.text = source.toList) :
    Document.read source =
      ((w.form.tree w.before.chars).map Document.ofTree).mapError ReadError.literal := by
  have hcheck : check source.toList = .ok () := check_eq_ok_iff.mpr ⟨w, h⟩
  have htext := text_writing w
  rw [h] at htext
  simp only [Document.read, hcheck, htext]
  cases w.form.tree w.before.chars <;> rfl

theorem read_of_check_error {source : String} {f : Fault} (h : check source.toList = .error f) :
    Document.read source = .error (.grammar f) := by
  simp [Document.read, h]

theorem exists_writing_of_read {source : String} {d : Document} (h : Document.read source = .ok d) :
    ∃ w : Writing, w.text = source.toList := by
  cases hcheck : check source.toList with
  | ok u => exact check_eq_ok_iff.mp hcheck
  | error f =>
    rw [read_of_check_error hcheck] at h
    cases h

/-- A text gives a document exactly if it is a text of the grammar whose literals all have values. -/
theorem exists_read_iff (source : String) :
    (∃ d, Document.read source = .ok d) ↔
      ∃ w : Writing, w.text = source.toList ∧ ∀ l ∈ w.form.leaves, l.Decodable := by
  constructor
  · rintro ⟨d, hd⟩
    obtain ⟨w, hw⟩ := exists_writing_of_read hd
    refine ⟨w, hw, (firstFault_eq_none_iff _).mp ?_⟩
    rw [read_writing hw] at hd
    rw [← w.form.fault_tree w.before.chars]
    cases htree : w.form.tree w.before.chars with
    | ok n => rfl
    | error f =>
      rw [htree] at hd
      cases hd
  · rintro ⟨w, hw, hleaves⟩
    have hfault := w.form.fault_tree w.before.chars
    rw [(firstFault_eq_none_iff _).mpr hleaves] at hfault
    rw [read_writing hw]
    cases htree : w.form.tree w.before.chars with
    | ok n => exact ⟨Document.ofTree n, rfl⟩
    | error f =>
      rw [htree] at hfault
      cases hfault

/-- The document mirrors the text, and only white space is left behind the value. -/
theorem mirrors_of_read {source : String} {d : Document} (h : Document.read source = .ok d) {w : Writing}
    (hw : w.text = source.toList) :
    w.form.Mirrors d.root ∧
      ∃ n k, Reader.text source.toList = .ok (n, k) ∧ d = Document.ofTree n ∧ k.rest = w.after.chars := by
  have htext := text_writing w
  rw [hw] at htext
  rw [read_writing hw] at h
  cases htree : w.form.tree w.before.chars with
  | ok n =>
    rw [htree] at h htext
    cases h
    exact ⟨(w.form.mirrors_tree htree).place Path.root, n, _, htext, rfl, rfl⟩
  | error f =>
    rw [htree] at h
    cases h

/-- A document that was read is the tree of the form that its text is a writing of. -/
theorem exists_tree_of_read {source : String} {d : Document} (h : Document.read source = .ok d) :
    ∃ (w : Writing) (tree : Node), w.text = source.toList ∧ w.form.tree w.before.chars = .ok tree ∧
      d = Document.ofTree tree := by
  obtain ⟨w, hw⟩ := exists_writing_of_read h
  rw [read_writing hw] at h
  cases htree : w.form.tree w.before.chars with
  | error f =>
    rw [htree] at h
    cases h
  | ok tree =>
    rw [htree] at h
    cases h
    exact ⟨w, tree, hw, htree, rfl⟩

theorem firstFault_of_read {source : String} {e : ReadError} (h : Document.read source = .error e) {w : Writing}
    (hw : w.text = source.toList) : ∃ f, e = .literal f ∧ firstFault w.form.leaves = some f := by
  rw [read_writing hw] at h
  rw [← w.form.fault_tree w.before.chars]
  cases htree : w.form.tree w.before.chars with
  | ok n =>
    rw [htree] at h
    cases h
  | error f =>
    rw [htree] at h
    cases h
    exact ⟨f, rfl, rfl⟩

/-- The reader and the grammar agree on every text. The check accepts the texts of the grammar; of these, the
texts whose literals all have values give documents that mirror them, with nothing but white space left
behind the value. The others are refused with the fault of their first literal without a value. -/
theorem read_agrees_with_grammar (source : String) :
    (check source.toList = .ok () ↔ ∃ w : Writing, w.text = source.toList) ∧
    ((∃ d, Document.read source = .ok d) ↔
      ∃ w : Writing, w.text = source.toList ∧ ∀ l ∈ w.form.leaves, l.Decodable) ∧
    ∀ w : Writing, w.text = source.toList →
      (∀ d, Document.read source = .ok d →
        w.form.Mirrors d.root ∧
        ∃ n k, Reader.text source.toList = .ok (n, k) ∧ d = Document.ofTree n ∧
          ∀ c ∈ k.rest, isSpace c = true) ∧
      (∀ e, Document.read source = .error e →
        ∃ before l after f, w.form.leaves = before ++ l :: after ∧ (∀ m ∈ before, m.Decodable) ∧
          ¬ l.Decodable ∧ l.decode = .error f ∧ e = .literal f) := by
  refine ⟨check_eq_ok_iff, exists_read_iff source, fun w hw => ⟨fun d hd => ?_, fun e he => ?_⟩⟩
  · obtain ⟨hmirrors, n, k, htext, htree, hrest⟩ := mirrors_of_read hd hw
    exact ⟨hmirrors, n, k, htext, htree, fun c hc => w.after.blank c (hrest ▸ hc)⟩
  · obtain ⟨f, rfl, hf⟩ := firstFault_of_read he hw
    obtain ⟨before, l, after, hleaves, hbefore, hl⟩ := firstFault_eq_some_iff.mp hf
    refine ⟨before, l, after, f, hleaves, hbefore, fun hdecodable => ?_, hl, rfl⟩
    obtain ⟨v, hv⟩ := l.exists_decode_iff_decodable.mpr hdecodable
    rw [hl] at hv
    cases hv

end DocLint
