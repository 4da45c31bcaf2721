import DocLint.Proofs.Document.Mirror
import DocLint.Proofs.Document.Tree

/-!
# Proofs: a node's span cuts it out of the text

The characters of a text at the span of a node are exactly what the node was read from. Cut out and read
again, the root or an item of a sequence gives the same tree; an entry of a mapping does so between
braces, as the only entry of a mapping. Only paths and spans differ.
-/

namespace DocLint

open DocLint.Text DocLint.Json Cursor

/-! ## Trees without paths and spans -/

namespace Node

mutual

/-- The tree below a node, with all paths and spans erased. -/
def bare : Node → Node
  | scalar _ _ v => scalar Path.root Span.start v
  | sequence _ _ items => sequence Path.root Span.start (bareItems items)
  | mapping _ _ entries => mapping Path.root Span.start (bareEntries entries)

/-- Erases the paths and spans of the nodes of a list. -/
def bareItems : List Node → List Node
  | [] => []
  | n :: r => bare n :: bareItems r

/-- Erases the paths and spans of the nodes of some entries. -/
def bareEntries : List (String × Node) → List (String × Node)
  | [] => []
  | (k, n) :: r => (k, bare n) :: bareEntries r

end

theorem span_place (n : Node) (p : Path) : (n.place p).span = n.span := by
  cases n <;> simp [place, span]

theorem span_withSpan (n : Node) (s : Span) : (n.withSpan s).span = s := by
  cases n <;> rfl

theorem preorder_eq (n : Node) : n.preorder = n :: n.preorder.tail := by
  cases n <;> simp [preorder]

/-- Another span changes nothing below the node. -/
theorem tail_preorder_withSpan (n : Node) (s : Span) (p : Path) :
    ((n.withSpan s).place p).preorder.tail = (n.place p).preorder.tail := by
  cases n <;> simp [withSpan, place, preorder]

end Node

mutual

/-- Nodes that mirror the same value differ in paths and spans only. -/
theorem Json.Form.Mirrors.bare_eq : ∀ {t : Form} {n m : Node}, t.Mirrors n → t.Mirrors m → n.bare = m.bare
  | _, _, _, .leaf hv, .leaf hw => by
    cases hv.symm.trans hw
    rfl
  | _, _, _, .emptyList, .emptyList => rfl
  | _, _, _, .list hi, .list hj => by rw [Node.bare, Node.bare, hi.bare_eq hj]
  | _, _, _, .emptyObject, .emptyObject => rfl
  | _, _, _, .object he, .object hf => by rw [Node.bare, Node.bare, he.bare_eq hf]

theorem Json.Items.Mirrors.bare_eq : ∀ {is : Items} {ns ms : List Node}, is.Mirrors ns → is.Mirrors ms →
    Node.bareItems ns = Node.bareItems ms
  | _, _, _, .last hv, .last hw => by simp only [Node.bareItems, hv.bare_eq hw]
  | _, _, _, .more hv hi, .more hw hj => by simp only [Node.bareItems, hv.bare_eq hw, hi.bare_eq hj]

theorem Json.Entries.Mirrors.bare_eq : ∀ {es : Entries} {ns ms : List (String × Node)}, es.Mirrors ns →
    es.Mirrors ms → Node.bareEntries ns = Node.bareEntries ms
  | _, _, _, .last hk hv, .last hl hw => by
    cases hk.symm.trans hl
    simp only [Node.bareEntries, hv.bare_eq hw]
  | _, _, _, .more hk hv he, .more hl hw hf => by
    cases hk.symm.trans hl
    simp only [Node.bareEntries, hv.bare_eq hw, he.bare_eq hf]

end

mutual

/-- A value that a node mirrors has no literal without a value. -/
theorem Json.Form.decodable_of_mirrors : ∀ (t : Form) {n : Node}, t.Mirrors n → ∀ l ∈ t.leaves, l.Decodable
  | .leaf l, _, h => by
    cases h with
    | leaf hv => simpa [Form.leaves] using l.exists_decode_iff_decodable.mp ⟨_, hv⟩
  | .emptyList _, _, _ => by simp [Form.leaves]
  | .list is, _, h => by
    cases h with
    | list hi => exact is.decodable_of_mirrors hi
  | .emptyObject _, _, _ => by simp [Form.leaves]
  | .object es, _, h => by
    cases h with
    | object he => exact es.decodable_of_mirrors he

theorem Json.Items.decodable_of_mirrors : ∀ (is : Items) {ns : List Node}, is.Mirrors ns →
    ∀ l ∈ is.leaves, l.Decodable
  | .last _ v _, _, h => by
    cases h with
    | last hv => exact v.decodable_of_mirrors hv
  | .more _ v _ is, _, h => by
    cases h with
    | more hv hi =>
      intro l hl
      rcases List.mem_append.mp hl with hl | hl
      · exact v.decodable_of_mirrors hv l hl
      · exact is.decodable_of_mirrors hi l hl

theorem Json.Entries.decodable_of_mirrors : ∀ (es : Entries) {ms : List (String × Node)}, es.Mirrors ms →
    ∀ l ∈ es.leaves, l.Decodable
  | .last _ k _ _ v _, _, h => by
    cases h with
    | last hk hv =>
      intro l hl
      rcases List.mem_cons.mp hl with rfl | hl
      · exact (exists_decode_iff k).mp ⟨_, hk⟩
      · exact v.decodable_of_mirrors hv l hl
  | .more _ k _ _ v _ es, _, h => by
    cases h with
    | more hk hv he =>
      intro l hl
      rcases List.mem_cons.mp hl with rfl | hl
      · exact (exists_decode_iff k).mp ⟨_, hk⟩
      · rcases List.mem_append.mp hl with hl | hl
        · exact v.decodable_of_mirrors hv l hl
        · exact es.decodable_of_mirrors he l hl

end

/-- A value that some node mirrors can be read alone and then gives the same tree. -/
theorem read_alone {t : Form} {n : Node} (h : t.Mirrors n) {cs : List Char} (hcs : cs = t.text) :
    ∃ d, Document.read (String.ofList cs) = .ok d ∧ d.root.bare = n.bare ∧ t.Mirrors d.root := by
  have hw : t.alone.text = (String.ofList cs).toList := by rw [String.toList_ofList, t.alone_text, hcs]
  obtain ⟨d, hd⟩ := (exists_read_iff (String.ofList cs)).mpr ⟨t.alone, hw, t.decodable_of_mirrors h⟩
  have hmirrors : t.Mirrors d.root := (mirrors_of_read hd hw).1
  exact ⟨d, hd, hmirrors.bare_eq h, hmirrors⟩

/-- A value that some node mirrors can be read between braces under a key, as the only entry of a mapping. -/
theorem read_entry {t : Form} {n : Node} (h : t.Mirrors n) {k : List Piece} {name : String}
    (hk : Json.decode (quotedText k) = .ok name.toList) (g g' : Gap) {cs : List Char}
    (hcs : cs = entryText k g g' t.text) :
    ∃ d, Document.read (String.ofList ('{' :: (cs ++ ['}']))) = .ok d ∧
      d.root.bare = .mapping Path.root Span.start [(name, n.bare)] := by
  have hobject : (Form.object (.last .none k g g' t .none)).Mirrors
      (.mapping Path.root Span.start [(name, n)]) := by
    have hentry : (Entries.last .none k g g' t .none).Mirrors [(String.ofList name.toList, n)] := .last hk h
    rw [String.ofList_toList] at hentry
    exact .object hentry
  have htext : '{' :: (cs ++ ['}']) = (Form.object (.last .none k g g' t .none)).text := by
    simp [hcs, Form.text, Entries.text, Gap.none]
  obtain ⟨d, hd, hbare, -⟩ := read_alone hobject htext
  exact ⟨d, hd, by simp [hbare, Node.bare, Node.bareEntries]⟩

/-! ## The ends of a value -/

theorem isBlank_of_isDigit {c : Char} (h : isDigit c = true) : isBlank c = false := by
  rw [isDigit_iff] at h
  simp [isBlank]
  omega

theorem isBlank_of_startsValue {c : Char} (h : startsValue c = true) : isBlank c = false := by
  simp only [startsValue, Bool.or_eq_true, decide_eq_true_eq, or_assoc] at h
  rcases h with rfl | rfl | rfl | rfl | hd | rfl | rfl | rfl
  case inr.inr.inr.inr.inl => exact isBlank_of_isDigit hd
  all_goals decide

/-- The text ends with a character that is no white space. -/
def EndsSolid (cs : List Char) : Prop :=
  ∃ r c, cs = r ++ [c] ∧ isBlank c = false

theorem EndsSolid.append {b : List Char} (h : EndsSolid b) (a : List Char) : EndsSolid (a ++ b) := by
  obtain ⟨r, c, rfl, hc⟩ := h
  exact ⟨a ++ r, c, by simp, hc⟩

theorem Json.Digits.endsSolid (ds : Digits) : EndsSolid ds.chars := by
  refine ⟨ds.chars.dropLast, ds.chars.getLast ds.nonempty, (List.dropLast_concat_getLast _).symm, ?_⟩
  exact isBlank_of_isDigit (ds.digits _ (List.getLast_mem _))

theorem Json.Numeral.endsSolid (n : Numeral) : EndsSolid n.text := by
  have hmagnitude : EndsSolid n.magnitude := by
    cases hp : n.power with
    | some p =>
      have h := (p.digits.endsSolid.append (p.mark :: p.sign.text)).append (n.whole.chars ++ fractionText n.fraction)
      simpa [magnitude, hp, powerText, Power.text] using h
    | none =>
      cases hf : n.fraction with
      | some ds =>
        have h := ds.endsSolid.append (n.whole.chars ++ ['.'])
        simpa [magnitude, hp, hf, powerText, fractionText] using h
      | none => simpa [magnitude, hp, hf, powerText, fractionText] using n.whole.endsSolid
  cases hn : n.negative with
  | true => simpa [text, hn] using hmagnitude.append ['-']
  | false => simpa [text, hn] using hmagnitude

theorem Json.Items.endsSolid : ∀ is : Items, EndsSolid is.text
  | .last b v c => ⟨b.chars ++ (v.text ++ c.chars), ']', by simp [Items.text], by decide⟩
  | .more b v c is => by
    simpa [Items.text] using is.endsSolid.append (b.chars ++ (v.text ++ (c.chars ++ [','])))

theorem Json.Entries.endsSolid : ∀ es : Entries, EndsSolid es.text
  | .last b k g g' v c => ⟨b.chars ++ (entryText k g g' v.text ++ c.chars), '}', by simp [Entries.text], by decide⟩
  | .more b k g g' v c es => by
    simpa [Entries.text] using es.endsSolid.append (b.chars ++ (entryText k g g' v.text ++ (c.chars ++ [','])))

theorem Json.Form.endsSolid (t : Form) : EndsSolid t.text := by
  cases t with
  | leaf l =>
    cases l with
    | word w =>
      rcases w with _ | _ | _
      · exact ⟨['n', 'u', 'l'], 'l', rfl, by decide⟩
      · exact ⟨['f', 'a', 'l', 's'], 'e', rfl, by decide⟩
      · exact ⟨['t', 'r', 'u'], 'e', rfl, by decide⟩
    | number n => exact n.endsSolid
    | string ps => exact ⟨'"' :: insideText ps, '"', rfl, by decide⟩
  | emptyList g => exact ⟨'[' :: g.chars, ']', rfl, by decide⟩
  | list is => exact is.endsSolid.append ['[']
  | emptyObject g => exact ⟨'{' :: g.chars, '}', rfl, by decide⟩
  | object es => exact es.endsSolid.append ['{']

/-- Neither end of a value is white space. -/
theorem Json.Form.isBlank_ends (t : Form) {c : Char} (h : t.text.head? = some c ∨ t.text.getLast? = some c) :
    isBlank c = false := by
  rcases h with h | h
  · obtain ⟨d, r, hdr, hd⟩ := t.text_head
    rw [hdr, List.head?_cons, Option.some.injEq] at h
    exact h ▸ isBlank_of_startsValue hd
  · obtain ⟨r, d, hdr, hd⟩ := t.endsSolid
    rw [hdr, List.getLast?_concat, Option.some.injEq] at h
    exact h ▸ hd

/-! ## Where the nodes come from -/

/-- The node was read from a value of the text and has its span. -/
def FromValue (cs : List Char) (n : Node) : Prop :=
  ∃ (a r : List Char) (t : Form), cs = a ++ (t.text ++ r) ∧ n.span = stretch a t.text ∧ t.Mirrors n

/-- The node was read from the value of an entry of the text and has the span of the entry. -/
def FromEntry (cs : List Char) (key : String) (n : Node) : Prop :=
  ∃ (a r : List Char) (k : List Piece) (g g' : Gap) (t : Form), cs = a ++ (entryText k g g' t.text ++ r) ∧
    n.span = stretch a (entryText k g g' t.text) ∧ Json.decode (quotedText k) = .ok key.toList ∧ t.Mirrors n

/-- The node was read from where its path says: an entry of a mapping if the path ends with a key. -/
def FromText (cs : List Char) (n : Node) : Prop :=
  match n.path.getLast? with
  | some (.key k) => FromEntry cs k n
  | _ => FromValue cs n

theorem Json.Form.span_tree {t : Form} {a : List Char} {n : Node} (h : t.tree a = .ok n) :
    n.span = stretch a t.text := by
  cases t with
  | leaf l | list is | object es =>
    obtain ⟨_, -, rfl⟩ := map_eq_ok_iff.mp h
    rfl
  | emptyList g | emptyObject g =>
    cases h
    rfl

/-- Everything below the value comes from the text. -/
def BelowFromText (cs : List Char) (value : Except Fault Node) : Prop :=
  ∀ n, value = .ok n → ∀ p : Path, ∀ m ∈ (n.place p).preorder.tail, FromText cs m

theorem fromText_item {cs a r : List Char} {t : Form} {n : Node} (htree : t.tree a = .ok n)
    (hcs : cs = a ++ (t.text ++ r)) (hbelow : BelowFromText cs (t.tree a)) (p : Path) (i : Nat) :
    ∀ m ∈ (n.place (p.child (.index i))).preorder, FromText cs m := by
  intro m hm
  rw [Node.preorder_eq] at hm
  rcases List.mem_cons.mp hm with rfl | hm
  · have hlast : (n.place (p.child (.index i))).path.getLast? = some (.index i) := by
      simp [Node.path_place, Path.child]
    simp only [FromText, hlast]
    exact ⟨a, r, t, hcs, by rw [Node.span_place, t.span_tree htree], (t.mirrors_tree htree).place _⟩
  · exact hbelow n htree _ m hm

theorem fromText_entry {cs a r : List Char} {k : List Piece} {g g' : Gap} {t : Form} {e : String × Node}
    (he : entryTree k (stretch a (entryText k g g' t.text)) (t.tree (a ++ entryText k g g' [])) = .ok e)
    (hcs : cs = a ++ (entryText k g g' t.text ++ r))
    (hbelow : BelowFromText cs (t.tree (a ++ entryText k g g' []))) (p : Path) :
    ∀ m ∈ (e.2.place (p.child (.key e.1))).preorder, FromText cs m := by
  obtain ⟨name, n, hname, hn, rfl⟩ := entryTree_eq_ok he
  intro m hm
  rw [Node.preorder_eq, Node.tail_preorder_withSpan] at hm
  rcases List.mem_cons.mp hm with rfl | hm
  · have hlast : ((n.withSpan (stretch a (entryText k g g' t.text))).place
        (p.child (.key (String.ofList name)))).path.getLast? = some (.key (String.ofList name)) := by
      simp [Node.path_place, Path.child]
    simp only [FromText, hlast]
    exact ⟨a, r, k, g, g', t, hcs, by rw [Node.span_place, Node.span_withSpan], by simpa using hname,
      ((t.mirrors_tree hn).withSpan _).place _⟩
  · exact hbelow n hn _ m hm

theorem entry_value_text (a : List Char) (k : List Piece) (g g' : Gap) (v r : List Char) :
    a ++ (entryText k g g' v ++ r) = a ++ entryText k g g' [] ++ (v ++ r) := by
  simp [entryText]

mutual

/-- Everything below a value comes from the text of the value. -/
theorem Json.Form.below_fromText {cs : List Char} : ∀ (t : Form) {a r : List Char},
    cs = a ++ (t.text ++ r) → BelowFromText cs (t.tree a)
  | .leaf l, a, r, _, n, h, p => by
    obtain ⟨v, -, rfl⟩ := map_eq_ok_iff.mp h
    simp [Node.place, Node.preorder]
  | .emptyList g, a, r, _, n, h, p => by
    cases h
    simp [Node.place, Node.placeItems, Node.preorder, Node.preorderItems]
  | .list is, a, r, hcs, n, h, p => by
    obtain ⟨ns, hns, rfl⟩ := map_eq_ok_iff.mp h
    rw [Node.place, Node.preorder, List.tail_cons]
    exact is.fromText_items (a := a ++ ['[']) (r := r) (by simp [hcs, Form.text]) hns p 0
  | .emptyObject g, a, r, _, n, h, p => by
    cases h
    simp [Node.place, Node.placeEntries, Node.preorder, Node.preorderEntries]
  | .object es, a, r, hcs, n, h, p => by
    obtain ⟨ms, hms, rfl⟩ := map_eq_ok_iff.mp h
    rw [Node.place, Node.preorder, List.tail_cons]
    exact es.fromText_entries (a := a ++ ['{']) (r := r) (by simp [hcs, Form.text]) hms p

theorem Json.Items.fromText_items {cs : List Char} : ∀ (is : Items) {a r : List Char} {ns : List Node},
    cs = a ++ (is.text ++ r) → is.trees a = .ok ns → ∀ (p : Path) (i : Nat),
    ∀ m ∈ Node.preorderItems (Node.placeItems p i ns), FromText cs m
  | .last b v c, a, r, ns, hcs, h, p, i => by
    obtain ⟨n, hn, rfl⟩ := map_eq_ok_iff.mp h
    have hcs' : cs = a ++ b.chars ++ (v.text ++ (c.chars ++ ']' :: r)) := by simp [hcs, Items.text]
    rw [Node.placeItems, Node.placeItems, Node.preorderItems, Node.preorderItems, List.append_nil]
    exact fromText_item hn hcs' (v.below_fromText hcs') p i
  | .more b v c is, a, r, ns, hcs, h, p, i => by
    obtain ⟨n, hn, h⟩ := bind_eq_ok_iff.mp h
    obtain ⟨ms, hms, h⟩ := bind_eq_ok_iff.mp h
    cases h
    have hcs' : cs = a ++ b.chars ++ (v.text ++ (c.chars ++ ',' :: (is.text ++ r))) := by
      simp [hcs, Items.text]
    intro m hm
    rw [Node.placeItems, Node.preorderItems] at hm
    rcases List.mem_append.mp hm with hm | hm
    · exact fromText_item hn hcs' (v.below_fromText hcs') p i m hm
    · exact is.fromText_items (r := r) (by simp [hcs, Items.text]) hms p (i + 1) m hm

theorem Json.Entries.fromText_entries {cs : List Char} : ∀ (es : Entries) {a r : List Char}
    {ms : List (String × Node)}, cs = a ++ (es.text ++ r) → es.trees a = .ok ms → ∀ (p : Path),
    ∀ m ∈ Node.preorderEntries (Node.placeEntries p ms), FromText cs m
  | .last b k g g' v c, a, r, ms, hcs, h, p => by
    obtain ⟨e, he, rfl⟩ := map_eq_ok_iff.mp h
    have hcs' : cs = a ++ b.chars ++ (entryText k g g' v.text ++ (c.chars ++ '}' :: r)) := by
      simp [hcs, Entries.text]
    rw [Node.placeEntries, Node.placeEntries, Node.preorderEntries, Node.preorderEntries, List.append_nil]
    exact fromText_entry he hcs' (v.below_fromText (hcs'.trans (entry_value_text _ k g g' _ _))) p
  | .more b k g g' v c es, a, r, ms, hcs, h, p => by
    obtain ⟨e, he, h⟩ := bind_eq_ok_iff.mp h
    obtain ⟨ns, hns, h⟩ := bind_eq_ok_iff.mp h
    cases h
    have hcs' : cs = a ++ b.chars ++ (entryText k g g' v.text ++ (c.chars ++ ',' :: (es.text ++ r))) := by
      simp [hcs, Entries.text]
    intro m hm
    rw [Node.placeEntries, Node.preorderEntries] at hm
    rcases List.mem_append.mp hm with hm | hm
    · exact fromText_entry he hcs' (v.below_fromText (hcs'.trans (entry_value_text _ k g g' _ _))) p m hm
    · exact es.fromText_entries (r := r) (by simp [hcs, Entries.text]) hns p m hm

end

/-- Every node of a document comes from the text it was read from. -/
theorem fromText_of_read {source : String} {d : Document} (h : Document.read source = .ok d) :
    ∀ n ∈ d.nodes, FromText source.toList n := by
  obtain ⟨w, root, hw, htree, rfl⟩ := exists_tree_of_read h
  have hcs : source.toList = w.before.chars ++ (w.form.text ++ w.after.chars) := by rw [← hw, Writing.text]
  intro n hn
  rw [Document.nodes, Document.ofTree, Node.preorder_eq] at hn
  rcases List.mem_cons.mp hn with rfl | hn
  · have hlast : (root.place Path.root).path.getLast? = none := by simp [Node.path_place, Path.root]
    simp only [FromText, hlast]
    exact ⟨_, _, w.form, hcs, by rw [Node.span_place, w.form.span_tree htree],
      (w.form.mirrors_tree htree).place _⟩
  · exact w.form.below_fromText hcs root htree _ n hn

/-! ## Cutting out a node -/

theorem Json.Form.text_ne_nil (t : Form) : t.text ≠ [] := by
  obtain ⟨c, r, hcr, -⟩ := t.text_head
  simp [hcr]

/-- The characters at the span of a node are what the node was read from. -/
theorem read_cut {source : String} {d : Document} (h : Document.read source = .ok d) {n : Node}
    (hn : n ∈ d.nodes) :
    let c := cut n.span source.toList
    match n.path.getLast? with
    | some (.key k) =>
      c.head? = some '"' ∧ (∃ literal rest, c = literal ++ rest ∧ Json.decode literal = .ok k.toList) ∧
        ∃ e, Document.read (String.ofList ('{' :: (c ++ ['}']))) = .ok e ∧
          e.root.bare = .mapping Path.root Span.start [(k, n.bare)]
    | _ =>
      (∃ e, Document.read (String.ofList c) = .ok e ∧ e.root.bare = n.bare) ∧
        ∀ x, c.head? = some x ∨ c.getLast? = some x → isBlank x = false := by
  have hvalue : FromValue source.toList n →
      (∃ e, Document.read (String.ofList (cut n.span source.toList)) = .ok e ∧ e.root.bare = n.bare) ∧
        ∀ x, (cut n.span source.toList).head? = some x ∨ (cut n.span source.toList).getLast? = some x →
          isBlank x = false := by
    rintro ⟨a, r, t, hcs, hspan, hmirrors⟩
    have hcut : cut n.span source.toList = t.text := by rw [hspan, hcs, cut_stretch t.text_ne_nil]
    obtain ⟨e, he, hbare, -⟩ := read_alone hmirrors hcut
    exact ⟨⟨e, he, hbare⟩, fun x hx => t.isBlank_ends (hcut ▸ hx)⟩
  have hfrom := fromText_of_read h n hn
  rw [FromText] at hfrom
  split
  · case h_1 k hlast =>
    rw [hlast] at hfrom
    obtain ⟨a, r, p, g, g', t, hcs, hspan, hkey, hmirrors⟩ := hfrom
    have hcut : cut n.span source.toList = entryText p g g' t.text := by
      rw [hspan, hcs, cut_stretch (by simp [entryText, quotedText])]
    refine ⟨by simp [hcut, entryText, quotedText], ⟨quotedText p, _, hcut, hkey⟩, ?_⟩
    exact read_entry hmirrors hkey g g' hcut
  · case h_2 hlast =>
    apply hvalue
    split at hfrom
    · case h_1 k hk => exact absurd hk (hlast k)
    · exact hfrom

/-- The entry of a mapping that has a list as its value. -/
theorem read_cut_entry :
    let a := String.ofList ['a']
    let source := String.ofList ['{', '"', 'a', '"', ':', '[', '1', ']', '}']
    let item := Node.scalar [.key a, .index 0] ⟨1, 7, 1, 7⟩ (.number (.integer 1))
    let entry := Node.sequence [.key a] ⟨1, 2, 1, 8⟩ [item]
    let d : Document := ⟨.mapping [] ⟨1, 1, 1, 9⟩ [(a, entry)]⟩
    Document.read source = .ok d ∧ entry ∈ d.nodes ∧
      ∃ e, Document.read (String.ofList ('{' :: (cut entry.span source.toList ++ ['}']))) = .ok e ∧
        e.root.bare = .mapping Path.root Span.start [(a, entry.bare)] := by
  intro a source item entry d
  have hread : Document.read source = .ok d := by
    simp only [Document.read, source, String.toList_ofList]
    rfl
  have hmem : entry ∈ d.nodes := by simp [d, entry, Document.nodes, Node.preorder, Node.preorderEntries]
  exact ⟨hread, hmem, (read_cut hread hmem).2.2⟩

end DocLint
