import DocLint.Proofs.Document.Literal

/-!
# Proofs: the reader reads what the checker accepts

The checker follows the grammar, the cursor (`Scanner`) guesses where each token ends. On the text of a form both
agree: the cursor comes out right behind the value, and what it has built is the form with every literal
decoded, with each node's span between its first and its last character. So a text that passed the check
is refused only for a literal without a value.
-/

namespace DocLint

open DocLint.Text DocLint.Json Cursor

/-! ## The tree of a form -/

/-- An entry under its decoded key. Its span is that of the whole entry, from its key on. -/
def entryTree (k : List Piece) (span : Span) (value : Except Fault Node) : Except Fault (String × Node) := do
  let key ← Json.decode (quotedText k)
  let n ← value
  return (String.ofList key, n.withSpan span)

mutual

/-- The tree of a value that follows the text `a`, or why its first literal without a value has none. -/
def Json.Form.tree (a : List Char) : Form → Except Fault Node
  | .leaf l => l.decode.map (Node.scalar Path.root (stretch a l.text))
  | .emptyList g => .ok (.sequence Path.root (stretch a (Form.emptyList g).text) [])
  | .list is => (is.trees (a ++ ['['])).map (Node.sequence Path.root (stretch a (Form.list is).text))
  | .emptyObject g => .ok (.mapping Path.root (stretch a (Form.emptyObject g).text) [])
  | .object es => (es.trees (a ++ ['{'])).map (Node.mapping Path.root (stretch a (Form.object es).text))

/-- The trees of the items of a list. -/
def Json.Items.trees (a : List Char) : Items → Except Fault (List Node)
  | .last b v _ => (v.tree (a ++ b.chars)).map ([·])
  | .more b v c r => do
    let n ← v.tree (a ++ b.chars)
    let ns ← r.trees (a ++ (b.chars ++ (v.text ++ (c.chars ++ [',']))))
    return n :: ns

/-- The trees of the entries of an object, under their keys. -/
def Json.Entries.trees (a : List Char) : Entries → Except Fault (List (String × Node))
  | .last b k g g' v _ =>
    (entryTree k (stretch (a ++ b.chars) (entryText k g g' v.text))
      (v.tree (a ++ b.chars ++ entryText k g g' []))).map ([·])
  | .more b k g g' v c r => do
    let e ← entryTree k (stretch (a ++ b.chars) (entryText k g g' v.text))
      (v.tree (a ++ b.chars ++ entryText k g g' []))
    let es ← r.trees (a ++ (b.chars ++ (entryText k g g' v.text ++ (c.chars ++ [',']))))
    return e :: es

end

/-- What the reader answers where it decodes a part of a text and comes out at `k`. -/
def outcome {α : Type} (x : Except Fault α) (k : Cursor) : Except ReadError (α × Cursor) :=
  match x with
  | .ok v => .ok (v, k)
  | .error f => .error (.literal f)

/-! ## One step of the reader -/

section Step

variable {fuel : Nat} {a r : List Char}

theorem string_behind (ps : List Piece) :
    Reader.string (behind a (quotedText ps ++ r)) =
      outcome ((Json.decode (quotedText ps)).map String.ofList) (behind (a ++ quotedText ps) r) := by
  have hquoted : quotedText ps ++ r = '"' :: (insideText ps ++ '"' :: r) := by simp [quotedText]
  have hpass : (behind (a ++ ['"']) (insideText ps ++ '"' :: r)).passString (insideText ps ++ '"' :: r) =
      .ok (behind (a ++ quotedText ps) r) := by
    rw [passString_behind (enclosed_inside ps)]
    simp [quotedText]
  have hbetween := between_behind (a := a) (b := quotedText ps) (r := r) (s := r)
  rw [hquoted] at hbetween ⊢
  have hrest : (behind (a ++ ['"']) (insideText ps ++ '"' :: r)).rest = insideText ps ++ '"' :: r := rfl
  simp only [Reader.string, expect_behind, hrest, hpass, hbetween, bind, Except.bind]
  cases Json.decode (quotedText ps) <;> rfl

theorem value_string (ps : List Piece) :
    Reader.value (fuel + 1) (behind a (quotedText ps ++ r)) =
      outcome ((Form.leaf (.string ps)).tree a) (behind (a ++ quotedText ps) r) := by
  have hrest : (behind a (quotedText ps ++ r)).rest = '"' :: (insideText ps ++ ['"'] ++ r) := rfl
  rw [Reader.value.eq_def]
  simp only [hrest, string_behind, bind, Except.bind]
  cases hd : Json.decode (quotedText ps) <;>
    simp [outcome, Form.tree, Leaf.decode, hd, Except.map, spanFrom_behind, Leaf.text, pure, Except.pure]

theorem value_plain {l : Leaf} (hl : ∀ ps, l ≠ .string ps) (hr : Stops (fun c => !endsLiteral c) r) :
    Reader.value (fuel + 1) (behind a (l.text ++ r)) =
      outcome ((Form.leaf l).tree a) (behind (a ++ l.text) r) := by
  have hend := l.endsLiteral_of_mem hl
  obtain ⟨c, s, hcs, hc⟩ := l.text_head hl
  have hrest : (behind a (l.text ++ r)).rest = c :: (s ++ r) := by simp [behind, hcs]
  rw [Reader.value.eq_def]
  simp only [hrest, hc, if_false, passLiteral_behind hend hr, between_behind, spanFrom_behind,
    l.ofLiteral_text hl]
  cases hd : l.decode <;> simp [outcome, Form.tree, hd, Except.map, bind, Except.bind,
    pure, Except.pure]

section Items

variable {k after : Cursor} {value : Except Fault Node}

theorem items_last (hvalue : Reader.value fuel k.skipSpace = outcome value after)
    (hend : after.skipSpace = behind a (']' :: r)) :
    Reader.items (fuel + 1) k = outcome (value.map ([·])) (behind (a ++ [']']) r) := by
  have hrest : (behind a (']' :: r)).rest = ']' :: r := rfl
  rw [Reader.items.eq_def]
  cases value <;>
    simp [hvalue, hend, hrest, expect_behind, outcome, Except.map, bind, Except.bind, pure, Except.pure]

theorem items_more {items : Except Fault (List Node)} {last : Cursor}
    (hvalue : Reader.value fuel k.skipSpace = outcome value after)
    (hmore : after.skipSpace = behind a (',' :: r))
    (hitems : Reader.items fuel (behind (a ++ [',']) r) = outcome items last) :
    Reader.items (fuel + 1) k = outcome (do return (← value) :: (← items)) last := by
  have hrest : (behind a (',' :: r)).rest = ',' :: r := rfl
  rw [Reader.items.eq_def]
  cases value <;> cases items <;>
    simp [hvalue, hmore, hrest, hitems, pass_behind, outcome, bind, Except.bind, pure, Except.pure]

end Items

section Entries

variable {k after last : Cursor} {key : List Piece} {b s : List Char} {value : Except Fault Node}

theorem entries_last
    (hkey : Reader.string k.skipSpace = outcome ((Json.decode (quotedText key)).map String.ofList) after)
    (hcolon : after.skipSpace = behind b (':' :: s))
    (hvalue : Reader.value fuel (behind (b ++ [':']) s).skipSpace = outcome value last)
    (hend : last.skipSpace = behind a ('}' :: r)) :
    Reader.entries (fuel + 1) k =
      outcome ((entryTree key (k.skipSpace.spanFrom last) value).map ([·])) (behind (a ++ ['}']) r) := by
  have hrest : (behind a ('}' :: r)).rest = '}' :: r := rfl
  rw [Reader.entries.eq_def]
  cases hd : Json.decode (quotedText key) <;> cases value <;>
    simp [hkey, hcolon, hvalue, hend, hrest, hd, expect_behind, entryTree, outcome, Except.map, bind,
      Except.bind, pure, Except.pure]

theorem entries_more {entries : Except Fault (List (String × Node))} {final : Cursor}
    (hkey : Reader.string k.skipSpace = outcome ((Json.decode (quotedText key)).map String.ofList) after)
    (hcolon : after.skipSpace = behind b (':' :: s))
    (hvalue : Reader.value fuel (behind (b ++ [':']) s).skipSpace = outcome value last)
    (hmore : last.skipSpace = behind a (',' :: r))
    (hentries : Reader.entries fuel (behind (a ++ [',']) r) = outcome entries final) :
    Reader.entries (fuel + 1) k =
      outcome (do return (← entryTree key (k.skipSpace.spanFrom last) value) :: (← entries)) final := by
  have hrest : (behind a (',' :: r)).rest = ',' :: r := rfl
  rw [Reader.entries.eq_def]
  cases hd : Json.decode (quotedText key) <;> cases value <;> cases entries <;>
    simp [hkey, hcolon, hvalue, hmore, hrest, hentries, hd, expect_behind, pass_behind, entryTree, outcome,
      Except.map, bind, Except.bind, pure, Except.pure]

end Entries

end Step

/-! ## Whole forms -/

/-- What follows a literal ends it. -/
abbrev EndsLiteral (r : List Char) : Prop :=
  Stops (fun c => !endsLiteral c) r

theorem Json.Gap.endsLiteral_cons (g : Gap) {c : Char} {r : List Char} (hc : endsLiteral c = true) :
    EndsLiteral (g.chars ++ c :: r) :=
  g.stops (fun d hd => by simp [endsLiteral_iff.mpr (Or.inl hd)]) (stops_cons.mpr (by simp [hc]))

theorem Json.Gap.endsLiteral_end (g : Gap) : EndsLiteral g.chars := by
  simpa using g.stops (fun d hd => by simp [endsLiteral_iff.mpr (Or.inl hd)]) (stops_nil _)

theorem skipSpace_behind_cons (a : List Char) (g : Gap) {c : Char} {r : List Char} (hc : isSpace c = false) :
    (behind a (g.chars ++ c :: r)).skipSpace = behind (a ++ g.chars) (c :: r) :=
  skipSpace_behind g (stops_cons.mpr hc)

theorem entryText_append (k : List Piece) (g g' : Gap) (v r : List Char) :
    entryText k g g' v ++ r = quotedText k ++ (g.chars ++ ':' :: (g'.chars ++ (v ++ r))) := by
  simp [entryText]

theorem entry_behind (a : List Char) (b : Gap) (k : List Piece) (g g' : Gap) (v : List Char) :
    a ++ b.chars ++ entryText k g g' [] ++ v = a ++ b.chars ++ entryText k g g' v := by
  simp [entryText]

/-- How the reader comes from the front of an entry to its value: the white space is skipped, the key is
read, the colon passed and white space skipped again. -/
theorem entry_front (a : List Char) (b : Gap) (k : List Piece) (g g' : Gap) (v : Form) (r : List Char) :
    ∃ c s,
      (behind a (b.chars ++ (entryText k g g' v.text ++ r))).skipSpace =
        behind (a ++ b.chars) (entryText k g g' v.text ++ r) ∧
      Reader.string (behind (a ++ b.chars) (entryText k g g' v.text ++ r)) =
        outcome ((Json.decode (quotedText k)).map String.ofList)
          (behind (a ++ b.chars ++ quotedText k) (g.chars ++ ':' :: s)) ∧
      (behind (a ++ b.chars ++ quotedText k) (g.chars ++ ':' :: s)).skipSpace = behind c (':' :: s) ∧
      (behind (c ++ [':']) s).skipSpace =
        behind (a ++ b.chars ++ entryText k g g' []) (v.text ++ r) := by
  refine ⟨a ++ b.chars ++ quotedText k ++ g.chars, g'.chars ++ (v.text ++ r), ?_, ?_, ?_, ?_⟩
  · rw [entryText_append]
    exact skipSpace_behind_cons a b (by decide)
  · rw [entryText_append]
    exact string_behind k
  · exact skipSpace_behind_cons _ g (by decide)
  · rw [skipSpace_behind g' (v.stops_space r)]
    simp [entryText]

-- By recursion on the form, as for the checker. The text behind the cursor grows by what was passed, so the
-- cursor after a part is known from the part alone.
mutual

/-- The reader decodes a value and comes out right behind it. -/
theorem Json.Form.value_text : ∀ (t : Form) (fuel : Nat) (a r : List Char), t.text.length ≤ fuel →
    EndsLiteral r → Reader.value fuel (behind a (t.text ++ r)) = outcome (t.tree a) (behind (a ++ t.text) r)
  | t, 0, _, _, hf, _ => by
    obtain ⟨c, s, hcs, -⟩ := t.text_head
    simp [hcs] at hf
  | .leaf (.string ps), fuel + 1, a, r, _, _ => value_string ps
  | .leaf (.word w), fuel + 1, a, r, _, hr => value_plain (l := .word w) (by simp) hr
  | .leaf (.number n), fuel + 1, a, r, _, hr => value_plain (l := .number n) (by simp) hr
  | .emptyList g, fuel + 1, a, r, _, _ => by
    have htext : (Form.emptyList g).text ++ r = '[' :: (g.chars ++ ']' :: r) := by simp [Form.text]
    have hskip := skipSpace_behind_cons (a ++ ['[']) g (c := ']') (r := r) (by decide)
    have hafter : a ++ ['['] ++ g.chars ++ [']'] = a ++ (Form.emptyList g).text := by simp [Form.text]
    have hstep := Reader.value_emptyList fuel (k := behind a ('[' :: (g.chars ++ ']' :: r))) rfl
      (by rw [pass_behind, hskip])
    rw [htext, hstep, hafter]
    rfl
  | .list is, fuel + 1, a, r, hf, _ => by
    obtain ⟨c, s, hcs, hc⟩ := is.skipSpace_text r
    have hitems := is.items_text fuel (a ++ ['[']) r (by simpa [Form.text] using hf)
    have hafter : a ++ ['['] ++ is.text = a ++ (Form.list is).text := by simp [Form.text]
    have hstep := Reader.value_list fuel (k := behind a ('[' :: (is.text ++ r))) rfl
      (by rw [pass_behind, rest_skipSpace_behind, hcs]) (ne_bracket_of_startsValue hc)
    rw [pass_behind, Reader.items_skipSpace, hitems, hafter] at hstep
    rw [Form.text, List.cons_append, hstep, Form.tree]
    cases is.trees (a ++ ['[']) <;> rfl
  | .emptyObject g, fuel + 1, a, r, _, _ => by
    have htext : (Form.emptyObject g).text ++ r = '{' :: (g.chars ++ '}' :: r) := by simp [Form.text]
    have hskip := skipSpace_behind_cons (a ++ ['{']) g (c := '}') (r := r) (by decide)
    have hafter : a ++ ['{'] ++ g.chars ++ ['}'] = a ++ (Form.emptyObject g).text := by simp [Form.text]
    have hstep := Reader.value_emptyObject fuel (k := behind a ('{' :: (g.chars ++ '}' :: r))) rfl
      (by rw [pass_behind, hskip])
    rw [htext, hstep, hafter]
    rfl
  | .object es, fuel + 1, a, r, hf, _ => by
    obtain ⟨s, hs⟩ := es.skipSpace_text r
    have hentries := es.entries_text fuel (a ++ ['{']) r (by simpa [Form.text] using hf)
    have hafter : a ++ ['{'] ++ es.text = a ++ (Form.object es).text := by simp [Form.text]
    have hstep := Reader.value_object fuel (k := behind a ('{' :: (es.text ++ r))) rfl
      (by rw [pass_behind, rest_skipSpace_behind, hs]) (by decide)
    rw [pass_behind, Reader.entries_skipSpace, hentries, hafter] at hstep
    rw [Form.text, List.cons_append, hstep, Form.tree]
    cases es.trees (a ++ ['{']) <;> rfl

theorem Json.Items.items_text : ∀ (is : Items) (fuel : Nat) (a r : List Char), is.text.length ≤ fuel →
    Reader.items fuel (behind a (is.text ++ r)) = outcome (is.trees a) (behind (a ++ is.text) r)
  | .last b v c, 0, a, r, hf => by simp [Items.text] at hf
  | .more b v c is, 0, a, r, hf => by simp [Items.text] at hf
  | .last b v c, fuel + 1, a, r, hf => by
    have hlen : v.text.length ≤ fuel := by
      simp only [Items.text, List.length_append, List.length_singleton] at hf
      omega
    have hv := v.value_text fuel (a ++ b.chars) (c.chars ++ ']' :: r) hlen (c.endsLiteral_cons (by decide))
    have hskip : (behind a ((Items.last b v c).text ++ r)).skipSpace =
        behind (a ++ b.chars) (v.text ++ (c.chars ++ ']' :: r)) := by
      simpa [Items.text] using skipSpace_behind (a := a) b (v.stops_space (c.chars ++ ']' :: r))
    rw [← hskip] at hv
    have hafter : a ++ b.chars ++ v.text ++ c.chars ++ [']'] = a ++ (Items.last b v c).text := by
      simp [Items.text]
    rw [items_last hv (skipSpace_behind_cons _ c (by decide)), hafter]
    rfl
  | .more b v c is, fuel + 1, a, r, hf => by
    have hlen : v.text.length ≤ fuel ∧ is.text.length ≤ fuel := by
      simp only [Items.text, List.length_append, List.length_cons] at hf
      omega
    have hv := v.value_text fuel (a ++ b.chars) (c.chars ++ ',' :: (is.text ++ r)) hlen.1
      (c.endsLiteral_cons (by decide))
    have hskip : (behind a ((Items.more b v c is).text ++ r)).skipSpace =
        behind (a ++ b.chars) (v.text ++ (c.chars ++ ',' :: (is.text ++ r))) := by
      simpa [Items.text] using skipSpace_behind (a := a) b (v.stops_space (c.chars ++ ',' :: (is.text ++ r)))
    rw [← hskip] at hv
    have hbefore : a ++ b.chars ++ v.text ++ c.chars ++ [','] =
        a ++ (b.chars ++ (v.text ++ (c.chars ++ [',']))) := by simp
    have hafter : a ++ (b.chars ++ (v.text ++ (c.chars ++ [',']))) ++ is.text =
        a ++ (Items.more b v c is).text := by simp [Items.text]
    have hrest := is.items_text fuel (a ++ (b.chars ++ (v.text ++ (c.chars ++ [','])))) r hlen.2
    rw [← hbefore] at hrest
    rw [items_more hv (skipSpace_behind_cons _ c (by decide)) hrest, hbefore, hafter]
    rfl

theorem Json.Entries.entries_text : ∀ (es : Entries) (fuel : Nat) (a r : List Char), es.text.length ≤ fuel →
    Reader.entries fuel (behind a (es.text ++ r)) = outcome (es.trees a) (behind (a ++ es.text) r)
  | .last b k g g' v c, 0, a, r, hf => by simp [Entries.text] at hf
  | .more b k g g' v c es, 0, a, r, hf => by simp [Entries.text] at hf
  | .last b k g g' v c, fuel + 1, a, r, hf => by
    have hlen : v.text.length ≤ fuel := by
      simp only [Entries.text, entryText, List.length_append, List.length_cons] at hf
      omega
    have htext : (Entries.last b k g g' v c).text ++ r =
        b.chars ++ (entryText k g g' v.text ++ (c.chars ++ '}' :: r)) := by simp [Entries.text]
    have hafter : a ++ b.chars ++ entryText k g g' v.text ++ c.chars ++ ['}'] =
        a ++ (Entries.last b k g g' v c).text := by simp [Entries.text]
    obtain ⟨d, s, hstart, hkey, hcolon, hvalue⟩ := entry_front a b k g g' v (c.chars ++ '}' :: r)
    have hv := v.value_text fuel (a ++ b.chars ++ entryText k g g' []) (c.chars ++ '}' :: r) hlen
      (c.endsLiteral_cons (by decide))
    rw [← hstart] at hkey
    rw [← hvalue, entry_behind] at hv
    rw [htext, entries_last hkey hcolon hv (skipSpace_behind_cons _ c (by decide)), hstart, spanFrom_behind,
      hafter]
    rfl
  | .more b k g g' v c es, fuel + 1, a, r, hf => by
    have hlen : v.text.length ≤ fuel ∧ es.text.length ≤ fuel := by
      simp only [Entries.text, entryText, List.length_append, List.length_cons] at hf
      omega
    have htext : (Entries.more b k g g' v c es).text ++ r =
        b.chars ++ (entryText k g g' v.text ++ (c.chars ++ ',' :: (es.text ++ r))) := by simp [Entries.text]
    have hbefore : a ++ b.chars ++ entryText k g g' v.text ++ c.chars ++ [','] =
        a ++ (b.chars ++ (entryText k g g' v.text ++ (c.chars ++ [',']))) := by simp
    have hafter : a ++ (b.chars ++ (entryText k g g' v.text ++ (c.chars ++ [',']))) ++ es.text =
        a ++ (Entries.more b k g g' v c es).text := by simp [Entries.text]
    obtain ⟨d, s, hstart, hkey, hcolon, hvalue⟩ := entry_front a b k g g' v (c.chars ++ ',' :: (es.text ++ r))
    have hv := v.value_text fuel (a ++ b.chars ++ entryText k g g' []) (c.chars ++ ',' :: (es.text ++ r))
      hlen.1 (c.endsLiteral_cons (by decide))
    have hrest := es.entries_text fuel
      (a ++ (b.chars ++ (entryText k g g' v.text ++ (c.chars ++ [','])))) r hlen.2
    rw [← hstart] at hkey
    rw [← hvalue, entry_behind] at hv
    rw [← hbefore] at hrest
    rw [htext, entries_more hkey hcolon hv (skipSpace_behind_cons _ c (by decide)) hrest, hstart,
      spanFrom_behind, hbefore, hafter]
    rfl

end

end DocLint
