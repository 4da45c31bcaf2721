import DocLint.Document.OfValue
import DocLint.Proofs.Document.Cutting
import DocLint.Proofs.Json.Encode
import DocLint.Proofs.Text.Natural

/-!
# Proofs: a written value is read back

A value that is written on indented lines is JSON: its text is that of a form that the tree of the value mirrors.
So it is read as a document, and but for paths and spans the document is the tree of the value
(`exists_read_pretty`). Of the numbers only integers of 64 bits are covered; they are written digit by digit
and read as what they are.
-/

namespace DocLint

open DocLint.Text DocLint.Json

/-! ## Literals -/

/-- A text is written as a literal that stands for it. -/
theorem Json.exists_pieces (s : String) :
    ∃ ps : List Piece, quotedText ps = encode s.toList ∧ Json.decode (quotedText ps) = .ok s.toList := by
  obtain ⟨ps, hps⟩ := exists_pieces_of_decode (decode_encode s.toList)
  exact ⟨ps, hps.symm, hps ▸ decode_encode s.toList⟩

/-- The numeral of an integer. -/
def Json.integerNumeral (i : Int) : Numeral where
  negative := decide (i < 0)
  whole := ⟨decimal i.natAbs, decimal_ne_nil _, fun _ hc => isDigit_of_mem_decimal hc⟩
  canonical h := by
    rw [eq_zero_of_head_decimal h]
    rfl
  fraction := none
  power := none

theorem Json.text_integerNumeral (i : Int) : (integerNumeral i).text = integerText i := by
  have hmagnitude : (integerNumeral i).magnitude = decimal i.natAbs := by
    simp [Numeral.magnitude, integerNumeral, fractionText, powerText]
  rw [Numeral.text, hmagnitude]
  cases i with
  | ofNat n => rfl
  | negSucc n =>
    have hneg : (integerNumeral (.negSucc n)).negative = true := decide_eq_true (Int.negSucc_lt_zero n)
    rw [hneg]
    rfl

/-- An integer of 64 bits is read as what it is. -/
theorem Json.ofLiteral_integerText {i : Int} (h : fitsWord i = true) :
    Number.ofLiteral? (integerText i) = some (.integer i) := by
  have hinteger : (integerNumeral i).literal.integer? = some i := by
    rcases lt_or_ge i 0 with hneg | hpos
    · have habs : |i| = -i := abs_of_neg hneg
      have hne : i ≠ 0 := hneg.ne
      simp [Literal.integer?, Numeral.literal, integerNumeral, digitsValue_decimal, hneg, hne, habs, h]
    · have habs : |i| = i := abs_of_nonneg hpos
      have hnot : ¬ i < 0 := not_lt.mpr hpos
      simp [Literal.integer?, Numeral.literal, integerNumeral, digitsValue_decimal, hnot, habs, h]
  rw [← text_integerNumeral, Number.ofLiteral?, Numeral.split_text, hinteger]

/-! ## Values -/

/-- Every number in the value is an integer of 64 bits. -/
inductive Json.Value.Integral : Value → Prop where
  | null : Integral .null
  | boolean (b : Bool) : Integral (.boolean b)
  | integer {i : Int} (fits : fitsWord i = true) : Integral (.number (.integer i))
  | string (s : String) : Integral (.string s)
  | array {items : List Value} (items_integral : ∀ v ∈ items, Integral v) : Integral (.array items)
  | object {entries : List (String × Value)} (entries_integral : ∀ e ∈ entries, Integral e.2) :
      Integral (.object entries)

/-- The text is that of a form that the tree of the value mirrors. -/
def Json.Value.WrittenAs (v : Value) (cs : List Char) : Prop :=
  ∃ t : Form, t.text = cs ∧ t.Mirrors (Node.ofValue v)

theorem Json.Leaf.writtenAs {l : Leaf} {v : Value} {s : Scalar} (h : l.decode = .ok s)
    (hv : Node.ofValue v = .scalar Path.root Span.start s) : v.WrittenAs l.text :=
  ⟨.leaf l, rfl, hv ▸ .leaf h⟩

/-- The line break in front of an item, with its indentation. -/
def Json.Gap.line (level : Nat) : Gap where
  chars := Value.newLine level
  blank c hc := by
    rcases List.mem_cons.mp hc with rfl | hc
    · decide
    · rw [List.eq_of_mem_replicate hc]
      decide

/-- The space behind a colon. -/
def Json.Gap.space : Gap where
  chars := [' ']
  blank c hc := by
    rw [List.mem_singleton.mp hc]
    decide

/-- The items of a list are written one by one, and the closing bracket stands on a line of its own. -/
theorem Json.Value.exists_items (level outer : Nat) {items : List Value} (hne : items ≠ [])
    (h : ∀ v ∈ items, v.WrittenAs (prettyChars level v)) :
    ∃ is : Items, is.text = prettyItems level items ++ (newLine outer ++ [']']) ∧
      is.Mirrors (itemsOfValues items) := by
  induction items with
  | nil => exact absurd rfl hne
  | cons v r ih =>
    obtain ⟨t, htext, hmirrors⟩ := h v List.mem_cons_self
    cases r with
    | nil =>
      refine ⟨.last (.line level) t (.line outer), ?_, .last hmirrors⟩
      simp [Items.text, prettyItems, Gap.line, htext]
    | cons w r =>
      obtain ⟨is, hrest, hmore⟩ := ih (List.cons_ne_nil w r) fun x hx => h x (List.mem_cons_of_mem v hx)
      refine ⟨.more (.line level) t .none is, ?_, .more hmirrors hmore⟩
      simp [Items.text, prettyItems, Gap.line, Gap.none, htext, hrest]

/-- The entries of an object are written one by one, and the closing brace stands on a line of its own. -/
theorem Json.Value.exists_entries (level outer : Nat) {entries : List (String × Value)} (hne : entries ≠ [])
    (h : ∀ e ∈ entries, e.2.WrittenAs (prettyChars level e.2)) :
    ∃ es : Entries, es.text = prettyEntries level entries ++ (newLine outer ++ ['}']) ∧
      es.Mirrors (entriesOfValues entries) := by
  induction entries with
  | nil => exact absurd rfl hne
  | cons e r ih =>
    obtain ⟨k, v⟩ := e
    obtain ⟨t, htext, hmirrors⟩ := h (k, v) List.mem_cons_self
    obtain ⟨ps, hquoted, hkey⟩ := exists_pieces k
    have hname : String.ofList k.toList = k := String.ofList_toList
    cases r with
    | nil =>
      have hlast : (Entries.last (.line level) ps .none .space t (.line outer)).Mirrors
          [(String.ofList k.toList, Node.ofValue v)] := .last hkey hmirrors
      refine ⟨.last (.line level) ps .none .space t (.line outer), ?_, hname ▸ hlast⟩
      simp [Entries.text, entryText, prettyEntries, Gap.line, Gap.none, Gap.space, hquoted, htext]
    | cons f r =>
      obtain ⟨es, hrest, hmore⟩ := ih (List.cons_ne_nil f r) fun x hx => h x (List.mem_cons_of_mem _ hx)
      have hfirst : (Entries.more (.line level) ps .none .space t .none es).Mirrors
          ((String.ofList k.toList, Node.ofValue v) :: entriesOfValues (f :: r)) := .more hkey hmirrors hmore
      refine ⟨.more (.line level) ps .none .space t .none es, ?_, hname ▸ hfirst⟩
      simp [Entries.text, entryText, prettyEntries, Gap.line, Gap.none, Gap.space, hquoted, htext, hrest]

/-- On every level a value is written as a form that its tree mirrors. -/
theorem Json.Value.Integral.writtenAs {v : Value} (h : v.Integral) (level : Nat) :
    v.WrittenAs (prettyChars level v) := by
  induction h generalizing level with
  | null =>
    exact Leaf.writtenAs (l := .word .null) rfl rfl
  | boolean b =>
    cases b
    · exact Leaf.writtenAs (l := .word (.boolean false)) rfl rfl
    · exact Leaf.writtenAs (l := .word (.boolean true)) rfl rfl
  | @integer i fits =>
    have hdecode : (Leaf.number (integerNumeral i)).decode = .ok (.number (.integer i)) := by
      rw [Leaf.decode, text_integerNumeral, ofLiteral_integerText fits]
    have hwritten := Leaf.writtenAs (v := .number (.integer i)) hdecode rfl
    rwa [Leaf.text, text_integerNumeral] at hwritten
  | string s =>
    obtain ⟨ps, hquoted, hdecode⟩ := exists_pieces s
    have hscalar : (Leaf.string ps).decode = .ok (.string s) := by
      rw [Leaf.decode, hdecode, Except.map, String.ofList_toList]
    have hwritten := Leaf.writtenAs (v := .string s) hscalar rfl
    rwa [Leaf.text, hquoted] at hwritten
  | @array items _ ih =>
    cases items with
    | nil => exact ⟨.emptyList .none, rfl, .emptyList⟩
    | cons v r =>
      obtain ⟨is, htext, hmirrors⟩ := exists_items (level + 1) level (List.cons_ne_nil v r)
        fun w hw => ih w hw (level + 1)
      exact ⟨.list is, by rw [Form.text, htext, prettyChars], .list hmirrors⟩
  | @object entries _ ih =>
    cases entries with
    | nil => exact ⟨.emptyObject .none, rfl, .emptyObject⟩
    | cons e r =>
      obtain ⟨es, htext, hmirrors⟩ := exists_entries (level + 1) level (List.cons_ne_nil e r)
        fun f hf => ih f hf (level + 1)
      exact ⟨.object es, by rw [Form.text, htext, prettyChars], .object hmirrors⟩

/-! ## Documents -/

mutual

/-- The tree of a value has no paths and spans to lose. -/
theorem Node.bare_ofValue : ∀ v : Value, (ofValue v).bare = ofValue v
  | .null => rfl
  | .boolean _ => rfl
  | .number _ => rfl
  | .string _ => rfl
  | .array items => by rw [ofValue, bare, bareItems_ofValues items]
  | .object entries => by rw [ofValue, bare, bareEntries_ofValues entries]

theorem Node.bareItems_ofValues : ∀ items : List Value, bareItems (itemsOfValues items) = itemsOfValues items
  | [] => rfl
  | v :: r => by rw [itemsOfValues, bareItems, bare_ofValue v, bareItems_ofValues r]

theorem Node.bareEntries_ofValues : ∀ entries : List (String × Value),
    bareEntries (entriesOfValues entries) = entriesOfValues entries
  | [] => rfl
  | (k, v) :: r => by rw [entriesOfValues, bareEntries, bare_ofValue v, bareEntries_ofValues r]

end

/-- A value that is written on indented lines is read as its tree, with white space behind it or not. -/
theorem exists_read_pretty {v : Value} (h : v.Integral) (after : Gap) :
    ∃ d, Document.read (String.ofList (v.prettyChars 0 ++ after.chars)) = .ok d ∧ d.root.bare = Node.ofValue v := by
  obtain ⟨t, htext, hmirrors⟩ := h.writtenAs 0
  have hw : (Writing.mk .none t after).text = (String.ofList (v.prettyChars 0 ++ after.chars)).toList := by
    simp [Writing.text, Gap.none, htext]
  obtain ⟨d, hd⟩ := (exists_read_iff _).mpr ⟨⟨.none, t, after⟩, hw, t.decodable_of_mirrors hmirrors⟩
  have hroot : t.Mirrors d.root := (mirrors_of_read hd hw).1
  exact ⟨d, hd, by rw [hroot.bare_eq hmirrors, Node.bare_ofValue]⟩

end DocLint
