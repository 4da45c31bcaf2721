import DocLint.Proofs.Check.Shape
import DocLint.Proofs.Document.Position
import DocLint.Proofs.Json.Integer

/-!
# Proofs: the numbers of a text and their types

The numbers of a document are what the numerals of its text give, one by one and in the order of the text. The node
of a numeral is an integer exactly if the numeral is one of 64 bits, and then its text is the numeral.

The nodes are followed along the form that was read, as the tree itself is. The value of an entry has another span
there, but it ends where it ended.
-/

namespace DocLint

open DocLint.Text DocLint.Json

/-! ## What numerals give -/

/-- The numeral that a literal is, if it is one. -/
def Json.Leaf.numeral? : Leaf → Option Numeral
  | number m => some m
  | _ => none

/-- The numerals of a text, in its order. -/
def Json.Writing.numerals (w : Writing) : List Numeral :=
  w.form.leaves.filterMap Leaf.numeral?

/-- The node is a number. -/
def Node.isNumber : Node → Bool
  | scalar _ _ (.number _) => true
  | _ => false

/-- The numbers of a document, in the order of its nodes. -/
def Document.numbers (d : Document) : List Node :=
  d.nodes.filter Node.isNumber

/-- The node is the number that the numeral gives where it stands in the text `cs`. -/
structure Json.Numeral.Gives (cs : List Char) (m : Numeral) (n : Node) : Prop where
  /-- The numeral stands where the node ends. -/
  stands : ∃ a r, cs = a ++ (m.text ++ r) ∧ n.span.last = (stretch a m.text).last
  /-- The node has the value of the numeral. -/
  value : ∃ v, Number.ofLiteral? m.text = some v ∧ n.value? = some (.number v)

/-- The numerals among the literals give the numbers among the nodes, one by one. -/
def GiveNumbers (cs : List Char) (ls : List Leaf) (ns : List Node) : Prop :=
  List.Forall₂ (Numeral.Gives cs) (ls.filterMap Leaf.numeral?) (ns.filter Node.isNumber)

section GiveNumbers

variable {cs : List Char}

theorem GiveNumbers.append {ls ls' : List Leaf} {ns ns' : List Node} (h : GiveNumbers cs ls ns)
    (h' : GiveNumbers cs ls' ns') : GiveNumbers cs (ls ++ ls') (ns ++ ns') := by
  unfold GiveNumbers at *
  rw [List.filterMap_append, List.filter_append]
  exact List.rel_append h h'

/-- The span of a number may start elsewhere. -/
theorem GiveNumbers.withSpan {ls : List Leaf} {n : Node} {p : Path} {s : Span} (hlast : s.last = n.span.last)
    (h : GiveNumbers cs ls (n.place p).preorder) : GiveNumbers cs ls ((n.withSpan s).place p).preorder := by
  cases n with
  | sequence q t items => exact h
  | mapping q t entries => exact h
  | scalar q t v =>
    cases v with
    | null | boolean b | string u => exact h
    | number x =>
      have hmoved : ∀ m : Numeral, m.Gives cs (.scalar p t (.number x)) → m.Gives cs (.scalar p s (.number x)) := by
        rintro m ⟨⟨a, r, hcs, hends⟩, hvalue⟩
        exact ⟨⟨a, r, hcs, hlast.trans hends⟩, hvalue⟩
      rcases List.forall₂_cons_right_iff.mp h with ⟨m, ms, hm, hms, hls⟩
      rw [GiveNumbers, hls]
      exact .cons (hmoved m hm) hms

theorem GiveNumbers.leaf {a r : List Char} {l : Leaf} {v : Scalar} (hcs : cs = a ++ (l.text ++ r))
    (hv : l.decode = .ok v) (p : Path) : GiveNumbers cs [l] [.scalar p (stretch a l.text) v] := by
  cases l with
  | word w =>
    rcases w with _ | b <;> cases hv <;> exact .nil
  | string ps =>
    obtain ⟨s, -, rfl⟩ := map_eq_ok_iff.mp hv
    exact .nil
  | number m =>
    cases hx : Number.ofLiteral? m.text with
    | none => simp [Leaf.decode, hx] at hv
    | some x =>
      simp only [Leaf.decode, hx, Except.ok.injEq] at hv
      subst hv
      exact .cons ⟨⟨a, r, hcs, rfl⟩, x, hx, rfl⟩ .nil

/-- The value of an entry gives its numbers at the span of the entry, and the key gives none. -/
theorem GiveNumbers.entry {a : List Char} {k : List Piece} {g g' : Gap} {t : Form} {e : String × Node}
    (he : entryTree k (stretch a (entryText k g g' t.text)) (t.tree (a ++ entryText k g g' [])) = .ok e) (p : Path)
    (hvalue : ∀ n, t.tree (a ++ entryText k g g' []) = .ok n → GiveNumbers cs t.leaves (n.place p).preorder) :
    GiveNumbers cs (.string k :: t.leaves) (e.2.place p).preorder := by
  obtain ⟨name, n, -, hn, rfl⟩ := entryTree_eq_ok he
  have htext : a ++ entryText k g g' [] ++ t.text = a ++ entryText k g g' t.text := by simp [entryText]
  have hlast : (stretch a (entryText k g g' t.text)).last = n.span.last := by
    rw [t.span_tree hn]
    show place (a ++ entryText k g g' t.text).dropLast = place (a ++ entryText k g g' [] ++ t.text).dropLast
    rw [htext]
  exact (hvalue n hn).withSpan hlast

end GiveNumbers

/-! ## Along the form -/

mutual

/-- The numerals of a value give the numbers of its tree. -/
theorem Json.Form.giveNumbers {cs : List Char} : ∀ (t : Form) {a r : List Char} {n : Node},
    cs = a ++ (t.text ++ r) → t.tree a = .ok n → ∀ p : Path, GiveNumbers cs t.leaves (n.place p).preorder
  | .leaf l, a, r, n, hcs, h, p => by
    obtain ⟨v, hv, rfl⟩ := map_eq_ok_iff.mp h
    exact .leaf hcs hv p
  | .emptyList g, a, r, n, hcs, h, p => by
    cases h
    exact .nil
  | .list is, a, r, n, hcs, h, p => by
    obtain ⟨ns, hns, rfl⟩ := map_eq_ok_iff.mp h
    exact is.giveNumbers (a := a ++ ['[']) (r := r) (by simp [hcs, Form.text]) hns p 0
  | .emptyObject g, a, r, n, hcs, h, p => by
    cases h
    exact .nil
  | .object es, a, r, n, hcs, h, p => by
    obtain ⟨ms, hms, rfl⟩ := map_eq_ok_iff.mp h
    exact es.giveNumbers (a := a ++ ['{']) (r := r) (by simp [hcs, Form.text]) hms p

theorem Json.Items.giveNumbers {cs : List Char} : ∀ (is : Items) {a r : List Char} {ns : List Node},
    cs = a ++ (is.text ++ r) → is.trees a = .ok ns → ∀ (p : Path) (i : Nat),
    GiveNumbers cs is.leaves (Node.preorderItems (Node.placeItems p i ns))
  | .last b v c, a, r, ns, hcs, h, p, i => by
    obtain ⟨n, hn, rfl⟩ := map_eq_ok_iff.mp h
    have hcs' : cs = a ++ b.chars ++ (v.text ++ (c.chars ++ ']' :: r)) := by simp [hcs, Items.text]
    rw [Node.placeItems, Node.placeItems, Node.preorderItems, Node.preorderItems, List.append_nil]
    exact v.giveNumbers hcs' hn _
  | .more b v c is, a, r, ns, hcs, h, p, i => by
    obtain ⟨n, hn, h⟩ := bind_eq_ok_iff.mp h
    obtain ⟨ms, hms, h⟩ := bind_eq_ok_iff.mp h
    cases h
    have hcs' : cs = a ++ b.chars ++ (v.text ++ (c.chars ++ ',' :: (is.text ++ r))) := by
      simp [hcs, Items.text]
    rw [Node.placeItems, Node.preorderItems]
    exact (v.giveNumbers hcs' hn _).append (is.giveNumbers (r := r) (by simp [hcs, Items.text]) hms p (i + 1))

theorem Json.Entries.giveNumbers {cs : List Char} : ∀ (es : Entries) {a r : List Char}
    {ms : List (String × Node)}, cs = a ++ (es.text ++ r) → es.trees a = .ok ms → ∀ p : Path,
    GiveNumbers cs es.leaves (Node.preorderEntries (Node.placeEntries p ms))
  | .last b k g g' v c, a, r, ms, hcs, h, p => by
    obtain ⟨e, he, rfl⟩ := map_eq_ok_iff.mp h
    have hcs' : cs = a ++ b.chars ++ (entryText k g g' v.text ++ (c.chars ++ '}' :: r)) := by
      simp [hcs, Entries.text]
    rw [Node.placeEntries, Node.placeEntries, Node.preorderEntries, Node.preorderEntries, List.append_nil]
    exact .entry he _ fun n hn => v.giveNumbers (hcs'.trans (entry_value_text _ k g g' _ _)) hn _
  | .more b k g g' v c es, a, r, ms, hcs, h, p => by
    obtain ⟨e, he, h⟩ := bind_eq_ok_iff.mp h
    obtain ⟨ns, hns, h⟩ := bind_eq_ok_iff.mp h
    cases h
    have hcs' : cs = a ++ b.chars ++ (entryText k g g' v.text ++ (c.chars ++ ',' :: (es.text ++ r))) := by
      simp [hcs, Entries.text]
    rw [Node.placeEntries, Node.preorderEntries]
    have hentry := GiveNumbers.entry he (p.child (.key e.1)) fun n hn =>
      v.giveNumbers (hcs'.trans (entry_value_text _ k g g' _ _)) hn _
    exact hentry.append (es.giveNumbers (r := r) (by simp [hcs, Entries.text]) hns p)

end

/-- The numerals of a text give the numbers of the document that is read from it. -/
theorem forall₂_numbers_of_read {source : String} {d : Document} (h : Document.read source = .ok d) {w : Writing}
    (hw : w.text = source.toList) : List.Forall₂ (Numeral.Gives source.toList) w.numerals d.numbers := by
  rw [read_writing hw] at h
  cases htree : w.form.tree w.before.chars with
  | error f =>
    rw [htree] at h
    cases h
  | ok n =>
    rw [htree] at h
    cases h
    exact w.form.giveNumbers (by rw [← hw, Writing.text]) htree Path.root

/-! ## Types of numbers -/

/-- The check has nothing to say about the node. -/
def Check.Passes (c : Check) (d : Document) (n : Node) : Prop :=
  ∀ f ∈ (c.evaluate d.root).found, ¬ c.About n f

/-- In a document that was read no two nodes have the same span. -/
theorem eq_of_span_eq {source : String} {d : Document} (h : Document.read source = .ok d) {m n : Node}
    (hm : m ∈ d.nodes) (hn : n ∈ d.nodes) (hspan : m.span = n.span) : m = n := by
  have hspans : (d.nodes.map Node.span).Nodup := by
    refine List.pairwise_map.mpr ((pairwise_nodes_of_read h).imp fun hearlier heq => ?_)
    rw [heq] at hearlier
    exact earlier_iff.mp hearlier (NotAfter.refl _)
  exact List.inj_on_of_nodup_map hspans hm hn hspan

/-- Of the nodes that it finds, a check of a type passes those that are of it. -/
theorem Check.passes_type_iff {source : String} {d : Document} (h : Document.read source = .ok d) {c : Check}
    {e : Expected} (hc : c.family = .type e) {n : Node} (hn : n ∈ Selected.nodes (c.selector.select d.root)) :
    c.Passes d n ↔ e.Names n := by
  have hfound := notes_type hc d.root
  constructor
  · intro hpasses
    by_contra hnot
    obtain ⟨note, hnote⟩ := Option.isSome_iff_exists.mp (typeNote_isSome_iff.mpr hnot)
    have habout : c.About n (c.finding note) := typeNote_node e n note hnote ▸ c.about_finding note
    refine hpasses _ ?_ habout
    rw [hfound]
    exact List.mem_map_of_mem (List.mem_filterMap.mpr ⟨n, hn, hnote⟩)
  · intro hnames f hf habout
    rw [hfound] at hf
    obtain ⟨note, hmem, rfl⟩ := List.mem_map.mp hf
    obtain ⟨m, hm, hnote⟩ := List.mem_filterMap.mp hmem
    -- A finding tells its place, and no two nodes share one.
    have hspan : m.span = n.span := by
      have hnote' := (c.about_finding note).span
      rw [typeNote_node e m note hnote] at hnote'
      exact hnote'.symm.trans habout.span
    obtain rfl := eq_of_span_eq h (mem_nodes_preorder m hm) (mem_nodes_preorder n hn) hspan
    exact typeNote_isSome_iff.mp (by rw [hnote]; rfl) hnames

/-- A number is of the type integer exactly if that is the name of its type, and always of the type number. -/
theorem names_number {n : Node} {x : Number} (hn : n.value? = some (.number x)) :
    (Expected.integer.Names n ↔ n.typeName = "integer") ∧ Expected.number.Names n := by
  have htype : n.typeName = (Scalar.number x).typeName := by rw [Node.typeName, hn]
  rw [Expected.Names, Expected.Names, htype]
  cases x <;> simp [Expected.text, Scalar.typeName]

/-- The node of a numeral is an integer exactly if the numeral is an integer of 64 bits, and a number otherwise. -/
theorem Json.Numeral.Gives.typeName {cs : List Char} {m : Numeral} {n : Node} (h : m.Gives cs n) :
    (m.IsInteger ∧ m.FitsWord → n.typeName = "integer" ∧ n.value?.map Scalar.text = some (String.ofList m.text)) ∧
      (¬ (m.IsInteger ∧ m.FitsWord) → n.typeName = "number") := by
  obtain ⟨v, hv, hvalue⟩ := h.value
  have htype : n.typeName = (Scalar.number v).typeName := by rw [Node.typeName, hvalue]
  rcases Numeral.ofLiteral_cases hv with ⟨hinteger, hfits, rfl⟩ | ⟨hnot, b, rfl⟩
  · refine ⟨fun _ => ⟨htype, ?_⟩, fun hnot => absurd ⟨hinteger, hfits⟩ hnot⟩
    rw [hvalue, Option.map_some, Scalar.text, Number.text, Number.chars, Numeral.integerText_integer hinteger hfits.1]
  · exact ⟨fun hfits => absurd hfits hnot, fun _ => htype⟩

/-- The numerals of a text that gives a document give its numbers, one by one and where they stand. The number of a
numeral without fraction and exponent has the type integer, and checks of that type pass it, exactly if the numeral is
no negative zero and fits a signed or an unsigned 64-bit word; then the numeral is its text, and the label that it is
for itself or for an item. The other numerals give the type number, and checks of that type pass them all. -/
theorem numbers_of_numerals {source : String} {d : Document} (h : Document.read source = .ok d) :
    (∃ w : Writing, w.text = source.toList) ∧
    ∀ w : Writing, w.text = source.toList →
      List.Forall₂ (fun m n =>
          m.Gives source.toList n ∧
          (m.IsInteger →
            (n.typeName = "integer" ↔ m.FitsWord) ∧
            (∀ c : Check, c.family = .type .integer → n ∈ Selected.nodes (c.selector.select d.root) →
              (c.Passes d n ↔ m.FitsWord)) ∧
            (m.FitsWord →
              n.value?.map Scalar.text = some (String.ofList m.text) ∧
              Ranking.itemLabel? none n = some (String.ofList m.text) ∧
              ∀ key item, item.child? (.key key) = .ok n →
                Ranking.itemLabel? (some key) item = some (String.ofList m.text))) ∧
          (¬ m.IsInteger → n.typeName = "number") ∧
          ∀ c : Check, c.family = .type .number → n ∈ Selected.nodes (c.selector.select d.root) → c.Passes d n)
        w.numerals d.numbers := by
  refine ⟨exists_writing_of_read h, fun w hw => (forall₂_numbers_of_read h hw).imp fun m n hgives => ?_⟩
  obtain ⟨v, -, hvalue⟩ := hgives.value
  obtain ⟨hfitting, hother⟩ := hgives.typeName
  obtain ⟨hnamesInteger, hnamesNumber⟩ := names_number hvalue
  refine ⟨hgives, fun hinteger => ?_, fun hnot => hother fun hfits => hnot hfits.1, fun c hc hn => ?_⟩
  · have htype : n.typeName = "integer" ↔ m.FitsWord := by
      constructor
      · intro hname
        by_contra hnot
        rw [hother fun hfits => hnot hfits.2] at hname
        exact absurd hname (by decide)
      · intro hfits
        exact (hfitting ⟨hinteger, hfits⟩).1
    refine ⟨htype, fun c hc hn => ?_, fun hfits => ?_⟩
    · rw [Check.passes_type_iff h hc hn, hnamesInteger, htype]
    · have htext := (hfitting ⟨hinteger, hfits⟩).2
      refine ⟨htext, htext, fun key item hchild => ?_⟩
      rw [Ranking.itemLabel?, hchild]
      exact htext
  · exact (Check.passes_type_iff h hc hn).mpr hnamesNumber

/-- The largest integer of 64 bits as an entry, and a negative zero. -/
theorem numbers_of_numerals_largest :
    let digits := ['1', '8', '4', '4', '6', '7', '4', '4', '0', '7', '3', '7', '0', '9', '5', '5', '1', '6', '1', '5']
    let source := String.ofList ('[' :: '{' :: '"' :: 'k' :: '"' :: ':' :: (digits ++ ['}', ',', '-', '0', ']']))
    let k := String.ofList ['k']
    let largest : Node := .scalar [.index 0, .key k] ⟨1, 3, 1, 26⟩ (.number (.integer 18446744073709551615))
    let item : Node := .mapping [.index 0] ⟨1, 2, 1, 27⟩ [(k, largest)]
    let zero : Node := .scalar [.index 1] ⟨1, 29, 1, 30⟩ (.number (.double ⟨true, 0, -1074⟩))
    let d : Document := ⟨.sequence [] ⟨1, 1, 1, 31⟩ [item, zero]⟩
    Document.read source = .ok d ∧ d.numbers = [largest, zero] ∧
      Ranking.itemLabel? (some k) item = some (String.ofList digits) ∧ zero.typeName ≠ "integer" := by
  intro digits source k largest item zero d
  have hnumbers : d.numbers = [largest, zero] := rfl
  let most : Numeral := ⟨false, ⟨digits, by decide, List.all_eq_true.mp rfl⟩, by decide, none, none⟩
  let minus : Numeral := ⟨true, ⟨['0'], by decide, List.all_eq_true.mp rfl⟩, by decide, none, none⟩
  let key : List Piece := [.plain 'k' (by decide)]
  let inner : Form := .object (.last .none key .none .none (.leaf (.number most)) .none)
  let w : Writing := (Form.list (.more .none inner .none (.last .none (.leaf (.number minus)) .none))).alone
  have hw : w.text = source.toList := by
    rw [String.toList_ofList]
    rfl
  have hmostValue : Number.ofLiteral? most.text = some (.integer 18446744073709551615) := by decide
  have hminusValue : Number.ofLiteral? minus.text = some (.double ⟨true, 0, -1074⟩) := by decide
  have hkey : decode (quotedText key) = .ok ['k'] := rfl
  have hread : Document.read source = .ok d := by
    rw [read_writing hw]
    simp only [w, inner, Form.alone, Form.tree, Items.trees, Entries.trees, entryTree, Leaf.decode, hmostValue,
      hminusValue, hkey]
    rfl
  have hnumerals : w.numerals = [most, minus] := rfl
  have hgiven := (numbers_of_numerals hread).2 w hw
  rw [hnumerals, hnumbers, List.forall₂_cons, List.forall₂_cons] at hgiven
  obtain ⟨⟨-, hmost, -⟩, ⟨-, hminus, -⟩, -⟩ := hgiven
  have hfits : most.FitsWord := ⟨by decide, by decide, by decide⟩
  have hlabel := ((hmost ⟨rfl, rfl⟩).2.2 hfits).2.2 k item rfl
  have hzero := (hminus ⟨rfl, rfl⟩).1
  exact ⟨hread, hnumbers, hlabel, fun hname => (hzero.mp hname).1 rfl⟩

end DocLint
