import DocLint.Proofs.Failure
import DocLint.Proofs.Json.Token

/-!
# Proofs: the checker accepts the written forms

The checker passes over exactly the texts of forms. One way, a form's text is passed over whatever
follows it, by recursion on the form; the other way, whatever is passed over is the text of a form, by
induction on the fuel. Fuel of the length of the text is enough.
-/

namespace DocLint.Json

open DocLint.Text

/-! ## First characters -/

/-- The characters that a value can start with. -/
def startsValue (c : Char) : Bool :=
  c = '"' || c = '[' || c = '{' || c = '-' || isDigit c || c = 'n' || c = 't' || c = 'f'

theorem Numeral.text_head (n : Numeral) :
    ∃ c r, n.text = c :: r ∧ (c = '-' ∨ isDigit c = true) := by
  obtain ⟨c, r, hcr⟩ := List.exists_cons_of_ne_nil n.whole.nonempty
  have hc : isDigit c = true := n.whole.digits c (by simp [hcr])
  cases hn : n.negative with
  | true => exact ⟨'-', n.magnitude, by simp [Numeral.text, hn], Or.inl rfl⟩
  | false => exact ⟨c, r ++ (fractionText n.fraction ++ powerText n.power),
      by simp [Numeral.text, Numeral.magnitude, hn, hcr], Or.inr hc⟩

theorem Form.text_head (t : Form) : ∃ c r, t.text = c :: r ∧ startsValue c = true := by
  cases t with
  | leaf l =>
    cases l with
    | word w => cases w with
      | null => exact ⟨'n', _, rfl, by decide⟩
      | boolean b => cases b with
        | true => exact ⟨'t', _, rfl, by decide⟩
        | false => exact ⟨'f', _, rfl, by decide⟩
    | number n =>
      obtain ⟨c, r, hcr, hc⟩ := n.text_head
      exact ⟨c, r, hcr, by rcases hc with rfl | hc <;> simp [startsValue, *]⟩
    | string ps => exact ⟨'"', _, rfl, by decide⟩
  | emptyList g => exact ⟨'[', _, rfl, by decide⟩
  | list is => exact ⟨'[', _, rfl, by decide⟩
  | emptyObject g => exact ⟨'{', _, rfl, by decide⟩
  | object es => exact ⟨'{', _, rfl, by decide⟩

theorem isDigit_iff {c : Char} : isDigit c = true ↔ 48 ≤ c.toNat ∧ c.toNat ≤ 57 := by
  simp [isDigit, Char.le_def, UInt32.le_iff_toNat_le]

theorem isSpace_of_startsValue {c : Char} (h : startsValue c = true) : isSpace c = false := by
  cases hs : isSpace c with
  | false => rfl
  | true =>
    rcases isSpace_iff.mp hs with rfl | rfl | rfl | rfl <;> exact absurd h (by decide)

theorem ne_bracket_of_startsValue {c : Char} (h : startsValue c = true) : c ≠ ']' := by
  rintro rfl
  exact absurd h (by decide)

theorem Form.stops_space (t : Form) (r : List Char) : Stops isSpace (t.text ++ r) := by
  obtain ⟨c, s, hcs, hc⟩ := t.text_head
  rw [hcs]
  exact stops_cons.mpr (isSpace_of_startsValue hc)

/-! ## White space in front -/

theorem Items.skipSpace_text (is : Items) (r : List Char) :
    ∃ c s, skipSpace (is.text ++ r) = c :: s ∧ startsValue c = true := by
  cases is with
  | last b v a =>
    obtain ⟨c, s, hcs, hc⟩ := v.text_head
    refine ⟨c, s ++ (a.chars ++ ']' :: r), ?_, hc⟩
    have h := skipSpace_gap b (v.stops_space (a.chars ++ ']' :: r))
    simpa [Items.text, hcs] using h
  | more b v a rest =>
    obtain ⟨c, s, hcs, hc⟩ := v.text_head
    refine ⟨c, s ++ (a.chars ++ ',' :: (rest.text ++ r)), ?_, hc⟩
    have h := skipSpace_gap b (v.stops_space (a.chars ++ ',' :: (rest.text ++ r)))
    simpa [Items.text, hcs] using h

theorem skipSpace_entryText (b : Gap) (k : List Piece) (g g' : Gap) (v r : List Char) :
    skipSpace (b.chars ++ (entryText k g g' v ++ r)) =
      '"' :: (insideText k ++ '"' :: (g.chars ++ ':' :: (g'.chars ++ (v ++ r)))) := by
  rw [skipSpace_gap b (by simp [entryText, quotedText, isSpace])]
  simp [entryText, quotedText]

theorem Entries.skipSpace_text (es : Entries) (r : List Char) :
    ∃ s, skipSpace (es.text ++ r) = '"' :: s := by
  cases es with
  | last b k g g' v a =>
    exact ⟨_, by simpa [Entries.text] using skipSpace_entryText b k g g' v.text (a.chars ++ '}' :: r)⟩
  | more b k g g' v a rest =>
    exact ⟨_, by
      simpa [Entries.text] using skipSpace_entryText b k g g' v.text (a.chars ++ ',' :: (rest.text ++ r))⟩

/-! ## One step of the checker -/

section Step

variable {fuel : Nat} {cs r s : List Char}

theorem pass_string (h : skipSpace cs = '"' :: r) : pass (fuel + 1) .value cs = passString r := by
  rw [pass.eq_def]; simp [h]

theorem pass_emptyList (h : skipSpace cs = '[' :: r) (hr : skipSpace r = ']' :: s) :
    pass (fuel + 1) .value cs = .ok s := by
  rw [pass.eq_def]; simp [h, hr]

theorem pass_list {c : Char} (h : skipSpace cs = '[' :: r) (hr : skipSpace r = c :: s) (hc : c ≠ ']') :
    pass (fuel + 1) .value cs = (pass fuel .value r >>= pass fuel .items) := by
  have hv := pass_skipSpace fuel .value r
  rw [hr] at hv
  rw [pass.eq_def]; simp [h, hr, hc, hv]

theorem pass_emptyObject (h : skipSpace cs = '{' :: r) (hr : skipSpace r = '}' :: s) :
    pass (fuel + 1) .value cs = .ok s := by
  rw [pass.eq_def]; simp [h, hr]

theorem pass_object {c : Char} (h : skipSpace cs = '{' :: r) (hr : skipSpace r = c :: s) (hc : c ≠ '}') :
    pass (fuel + 1) .value cs = pass fuel .entries r := by
  have hv := pass_skipSpace fuel .entries r
  rw [hr] at hv
  rw [pass.eq_def]; simp [h, hr, hc, hv]

theorem pass_minus (h : skipSpace cs = '-' :: r) : pass (fuel + 1) .value cs = passMagnitude r := by
  rw [pass.eq_def]; simp [h]

theorem pass_digit {c : Char} (h : skipSpace cs = c :: r) (hc : isDigit c = true) :
    pass (fuel + 1) .value cs = passMagnitude (c :: r) := by
  have hne : c ≠ '"' ∧ c ≠ '[' ∧ c ≠ '{' ∧ c ≠ '-' := by
    refine ⟨?_, ?_, ?_, ?_⟩ <;> rintro rfl <;> exact absurd hc (by decide)
  rw [pass.eq_def]; simp [h, hc, hne]

theorem pass_word (w : Word) (h : skipSpace cs = w.text ++ r) : pass (fuel + 1) .value cs = .ok r := by
  rw [pass.eq_def]
  rcases w with _ | _ | _ <;>
    simp [h, Word.text, passWord, isDigit]

theorem pass_items_end (h : skipSpace cs = ']' :: r) : pass (fuel + 1) .items cs = .ok r := by
  rw [pass.eq_def]; simp [h]

theorem pass_items_more (h : skipSpace cs = ',' :: r) :
    pass (fuel + 1) .items cs = (pass fuel .value r >>= pass fuel .items) := by
  rw [pass.eq_def]; simp [h]

section Entry

variable {r₁ r₂ r₃ : List Char}

theorem pass_entries_end (h : skipSpace cs = '"' :: r) (hkey : passString r = .ok r₁)
    (hcolon : skipSpace r₁ = ':' :: r₂) (hvalue : pass fuel .value r₂ = .ok r₃)
    (hend : skipSpace r₃ = '}' :: s) : pass (fuel + 1) .entries cs = .ok s := by
  rw [pass.eq_def]; simp [h, hkey, hcolon, hvalue, hend, bind, Except.bind]

theorem pass_entries_more (h : skipSpace cs = '"' :: r) (hkey : passString r = .ok r₁)
    (hcolon : skipSpace r₁ = ':' :: r₂) (hvalue : pass fuel .value r₂ = .ok r₃)
    (hmore : skipSpace r₃ = ',' :: s) : pass (fuel + 1) .entries cs = pass fuel .entries s := by
  rw [pass.eq_def]; simp [h, hkey, hcolon, hvalue, hmore, bind, Except.bind]

end Entry

end Step

/-! ## Forms are passed over -/

theorem pass_leaf (l : Leaf) (fuel : Nat) (g : Gap) {r : List Char} (hr : Stops isNumberChar r) :
    pass (fuel + 1) .value (g.chars ++ (l.text ++ r)) = .ok r := by
  have hskip : skipSpace (g.chars ++ (l.text ++ r)) = l.text ++ r :=
    skipSpace_gap g (Form.stops_space (.leaf l) r)
  cases l with
  | word w => exact pass_word w hskip
  | string ps =>
    have hq : skipSpace (g.chars ++ (quotedText ps ++ r)) = '"' :: (insideText ps ++ '"' :: r) := by
      simpa [Leaf.text, quotedText] using hskip
    exact (pass_string hq).trans (passString_inside ps r)
  | number n =>
    have hpass := passMagnitude_magnitude n hr
    rw [Leaf.text, Numeral.text] at hskip ⊢
    cases hn : n.negative with
    | true =>
      rw [hn] at hskip
      exact (pass_minus hskip).trans hpass
    | false =>
      obtain ⟨c, s, hcs⟩ := List.exists_cons_of_ne_nil n.whole.nonempty
      have hc : isDigit c = true := n.whole.digits c (by simp [hcs])
      have hm : n.magnitude ++ r = c :: (s ++ (fractionText n.fraction ++ powerText n.power) ++ r) := by
        simp [Numeral.magnitude, hcs]
      rw [hn] at hskip
      simp only [Bool.false_eq_true, if_false] at hskip ⊢
      rw [pass_digit (hskip.trans hm) hc, ← hm, hpass]

theorem Gap.stops_number (g : Gap) {c : Char} {r : List Char} (hc : isNumberChar c = false) :
    Stops isNumberChar (g.chars ++ c :: r) := by
  refine g.stops (fun d hd => ?_) (stops_cons.mpr hc)
  rcases isSpace_iff.mp hd with rfl | rfl | rfl | rfl <;> decide

theorem Gap.skipSpace_cons (g : Gap) {c : Char} {r : List Char} (hc : isSpace c = false) :
    skipSpace (g.chars ++ c :: r) = c :: r :=
  skipSpace_gap g (stops_cons.mpr hc)

-- By recursion on the form. A part of a form has a shorter text, so the text bounds the fuel.
mutual

/-- The checker passes over a value, whatever follows it. -/
theorem Form.pass_text : ∀ (t : Form) (fuel : Nat) (g : Gap) (r : List Char), t.text.length ≤ fuel →
    Stops isNumberChar r → pass fuel .value (g.chars ++ (t.text ++ r)) = .ok r
  | t, 0, _, _, hf, _ => by
    obtain ⟨c, s, hcs, -⟩ := t.text_head
    simp [hcs] at hf
  | .leaf l, fuel + 1, g, r, _, hr => pass_leaf l fuel g hr
  | .emptyList i, fuel + 1, g, r, _, _ => by
    have h : skipSpace (g.chars ++ ((Form.emptyList i).text ++ r)) = '[' :: (i.chars ++ ']' :: r) := by
      simpa [Form.text] using g.skipSpace_cons (r := i.chars ++ ']' :: r) (c := '[') (by decide)
    exact pass_emptyList h (i.skipSpace_cons (by decide))
  | .list is, fuel + 1, g, r, hf, _ => by
    have h : skipSpace (g.chars ++ ((Form.list is).text ++ r)) = '[' :: (is.text ++ r) := by
      simpa [Form.text] using g.skipSpace_cons (r := is.text ++ r) (c := '[') (by decide)
    obtain ⟨c, s, hcs, hc⟩ := is.skipSpace_text r
    rw [pass_list h hcs (ne_bracket_of_startsValue hc)]
    exact is.pass_text fuel r (by simpa [Form.text] using hf)
  | .emptyObject i, fuel + 1, g, r, _, _ => by
    have h : skipSpace (g.chars ++ ((Form.emptyObject i).text ++ r)) = '{' :: (i.chars ++ '}' :: r) := by
      simpa [Form.text] using g.skipSpace_cons (r := i.chars ++ '}' :: r) (c := '{') (by decide)
    exact pass_emptyObject h (i.skipSpace_cons (by decide))
  | .object es, fuel + 1, g, r, hf, _ => by
    have h : skipSpace (g.chars ++ ((Form.object es).text ++ r)) = '{' :: (es.text ++ r) := by
      simpa [Form.text] using g.skipSpace_cons (r := es.text ++ r) (c := '{') (by decide)
    obtain ⟨s, hs⟩ := es.skipSpace_text r
    rw [pass_object h hs (by decide)]
    exact es.pass_text fuel r (by simpa [Form.text] using hf)

theorem Items.pass_text : ∀ (is : Items) (fuel : Nat) (r : List Char), is.text.length ≤ fuel →
    (pass fuel .value (is.text ++ r) >>= pass fuel .items) = .ok r
  | .last b v a, fuel, r, hf => by
    have hlen : v.text.length + 1 ≤ fuel := by
      simp only [Items.text, List.length_append, List.length_singleton] at hf
      omega
    obtain ⟨fuel, rfl⟩ := Nat.exists_eq_add_one.mpr (Nat.lt_of_lt_of_le (Nat.succ_pos _) hlen)
    have hv := v.pass_text (fuel + 1) b (a.chars ++ ']' :: r) (by omega) (a.stops_number (by decide))
    have htext : (Items.last b v a).text ++ r = b.chars ++ (v.text ++ (a.chars ++ ']' :: r)) := by
      simp [Items.text]
    rw [htext, hv]
    exact pass_items_end (a.skipSpace_cons (by decide))
  | .more b v a is, fuel, r, hf => by
    have hlen : v.text.length + is.text.length + 1 ≤ fuel := by
      simp only [Items.text, List.length_append, List.length_cons] at hf
      omega
    obtain ⟨fuel, rfl⟩ := Nat.exists_eq_add_one.mpr (Nat.lt_of_lt_of_le (Nat.succ_pos _) hlen)
    have hv := v.pass_text (fuel + 1) b (a.chars ++ ',' :: (is.text ++ r)) (by omega)
      (a.stops_number (by decide))
    have htext : (Items.more b v a is).text ++ r =
        b.chars ++ (v.text ++ (a.chars ++ ',' :: (is.text ++ r))) := by
      simp [Items.text]
    rw [htext, hv]
    exact (pass_items_more (a.skipSpace_cons (by decide))).trans (is.pass_text fuel r (by omega))

theorem Entries.pass_text : ∀ (es : Entries) (fuel : Nat) (r : List Char), es.text.length ≤ fuel →
    pass fuel .entries (es.text ++ r) = .ok r
  | .last b k g g' v a, fuel, r, hf => by
    have hlen : v.text.length + 1 ≤ fuel := by
      simp only [Entries.text, entryText, List.length_append, List.length_cons] at hf
      omega
    obtain ⟨fuel, rfl⟩ := Nat.exists_eq_add_one.mpr (Nat.lt_of_lt_of_le (Nat.succ_pos _) hlen)
    have hv := v.pass_text fuel g' (a.chars ++ '}' :: r) (by omega) (a.stops_number (by decide))
    have htext : (Entries.last b k g g' v a).text ++ r =
        b.chars ++ (entryText k g g' v.text ++ (a.chars ++ '}' :: r)) := by
      simp [Entries.text]
    rw [htext]
    exact pass_entries_end (skipSpace_entryText b k g g' _ _) (passString_inside k _)
      (g.skipSpace_cons (by decide)) hv (a.skipSpace_cons (by decide))
  | .more b k g g' v a es, fuel, r, hf => by
    have hlen : v.text.length + es.text.length + 1 ≤ fuel := by
      simp only [Entries.text, entryText, List.length_append, List.length_cons] at hf
      omega
    obtain ⟨fuel, rfl⟩ := Nat.exists_eq_add_one.mpr (Nat.lt_of_lt_of_le (Nat.succ_pos _) hlen)
    have hv := v.pass_text fuel g' (a.chars ++ ',' :: (es.text ++ r)) (by omega)
      (a.stops_number (by decide))
    have htext : (Entries.more b k g g' v a es).text ++ r =
        b.chars ++ (entryText k g g' v.text ++ (a.chars ++ ',' :: (es.text ++ r))) := by
      simp [Entries.text]
    rw [htext]
    exact (pass_entries_more (skipSpace_entryText b k g g' _ _) (passString_inside k _)
      (g.skipSpace_cons (by decide)) hv (a.skipSpace_cons (by decide))).trans
      (es.pass_text fuel r (by omega))

end

/-! ## What is passed over is a form -/

/-- White space put in front of another white space. -/
def Gap.append (g g' : Gap) : Gap :=
  ⟨g.chars ++ g'.chars, fun c hc => (List.mem_append.mp hc).elim (g.blank c) (g'.blank c)⟩

theorem Items.exists_gap_append (is : Items) (g : Gap) : ∃ js : Items, js.text = g.chars ++ is.text := by
  cases is with
  | last b v a => exact ⟨.last (g.append b) v a, by simp [Items.text, Gap.append]⟩
  | more b v a r => exact ⟨.more (g.append b) v a r, by simp [Items.text, Gap.append]⟩

theorem Entries.exists_gap_append (es : Entries) (g : Gap) :
    ∃ fs : Entries, fs.text = g.chars ++ es.text := by
  cases es with
  | last b k i j v a => exact ⟨.last (g.append b) k i j v a, by simp [Entries.text, Gap.append]⟩
  | more b k i j v a r => exact ⟨.more (g.append b) k i j v a r, by simp [Entries.text, Gap.append]⟩

/-- What the checker passes over when it looks for a part and leaves `r` of the text `cs`. -/
def Part.Passed (p : Part) (cs r : List Char) : Prop :=
  match p with
  | .value => ∃ (g : Gap) (t : Form), cs = g.chars ++ (t.text ++ r)
  | .items => ∃ s, cs = s ++ r ∧ ∀ (b : Gap) (v : Form), ∃ is : Items, is.text = b.chars ++ (v.text ++ s)
  | .entries => ∃ es : Entries, cs = es.text ++ r

theorem passed_form {cs r : List Char} (t : Form) (h : skipSpace cs = t.text ++ r) :
    Part.value.Passed cs r := by
  obtain ⟨g, hg, -⟩ := exists_gap cs
  exact ⟨g, t, by rw [← h]; exact hg⟩

theorem passed_list {cs r s : List Char} (hv : Part.value.Passed cs r) (hi : Part.items.Passed r s) :
    ∃ is : Items, cs = is.text ++ s := by
  obtain ⟨g, t, rfl⟩ := hv
  obtain ⟨m, rfl, hm⟩ := hi
  obtain ⟨is, his⟩ := hm g t
  exact ⟨is, by simp [his]⟩

/-- A number in front of a text. -/
theorem passed_number {cs m r : List Char} (negative : Bool)
    (h : skipSpace cs = (if negative then '-' :: m else m)) (hm : passMagnitude m = .ok r) :
    Part.value.Passed cs r := by
  obtain ⟨n, hn, rfl⟩ := exists_magnitude hm negative
  refine passed_form (.leaf (.number n)) ?_
  rw [h, Form.text, Leaf.text, Numeral.text, hn]
  cases negative <;> rfl

/-- An entry in front of a text, whose value leaves `r`. -/
theorem passed_entry {cs k c v r : List Char} (hkey : skipSpace cs = '"' :: k)
    (hk : passString k = .ok c) (hcolon : skipSpace c = ':' :: v) (hv : Part.value.Passed v r) :
    ∃ (b : Gap) (key : List Piece) (g g' : Gap) (t : Form),
      cs = b.chars ++ (entryText key g g' t.text ++ r) := by
  obtain ⟨b, hb, -⟩ := exists_gap cs
  obtain ⟨key, rfl⟩ := exists_inside hk
  obtain ⟨g, hg, -⟩ := exists_gap c
  obtain ⟨g', t, rfl⟩ := hv
  refine ⟨b, key, g, g', t, ?_⟩
  rw [hcolon] at hg
  rw [hkey, hg] at hb
  rw [hb]
  simp [entryText, quotedText]

section Entry

variable {cs w s : List Char} {b : Gap} {key : List Piece} {g g' : Gap} {t : Form}

/-- The last entry of an object and the closing brace. -/
theorem passed_entries_end (hcs : cs = b.chars ++ (entryText key g g' t.text ++ w))
    (hend : skipSpace w = '}' :: s) : Part.entries.Passed cs s := by
  obtain ⟨a, ha, -⟩ := exists_gap w
  exact ⟨.last b key g g' t a, by rw [hcs, ha, hend]; simp [Entries.text]⟩

/-- An entry of an object, a comma and more entries. -/
theorem passed_entries_more {r : List Char} (hcs : cs = b.chars ++ (entryText key g g' t.text ++ w))
    (hmore : skipSpace w = ',' :: s) (hs : Part.entries.Passed s r) : Part.entries.Passed cs r := by
  obtain ⟨a, ha, -⟩ := exists_gap w
  obtain ⟨es, rfl⟩ := hs
  exact ⟨.more b key g g' t a es, by rw [hcs, ha, hmore]; simp [Entries.text]⟩

end Entry

/-- Whatever the checker passes over is a part of the text of a form. -/
theorem passed_of_pass {fuel : Nat} {p : Part} {cs r : List Char} (h : pass fuel p cs = .ok r) :
    p.Passed cs r := by
  -- The cases follow the calls of the checker; those that refuse the text leave nothing.
  fun_induction pass fuel p cs generalizing r with
  | case1 | case2 | case4 | case7 | case15 | case16 | case19 | case20 | case21 => simp at h
  | case3 fuel cs k hk =>
    obtain ⟨ps, rfl⟩ := exists_inside h
    exact passed_form (.leaf (.string ps)) (by simp [hk, Form.text, Leaf.text, quotedText])
  | case5 fuel cs k s hk _ hs =>
    obtain ⟨g, hg, -⟩ := exists_gap k
    cases h
    exact passed_form (.emptyList g) (by rw [hk, hg, hs]; simp [Form.text])
  | case6 fuel cs k c s hs hc hk _ ihv ihi =>
    obtain ⟨m, hm, hr⟩ := bind_eq_ok_iff.mp h
    obtain ⟨is, his⟩ := passed_list (ihv hm) (ihi m hr)
    obtain ⟨g, hg, -⟩ := exists_gap k
    obtain ⟨js, hjs⟩ := is.exists_gap_append g
    exact passed_form (.list js) (by rw [hk, hg, hs, his]; simp [Form.text, hjs])
  | case8 fuel cs k s hk _ _ hs =>
    obtain ⟨g, hg, -⟩ := exists_gap k
    cases h
    exact passed_form (.emptyObject g) (by rw [hk, hg, hs]; simp [Form.text])
  | case9 fuel cs k c s hs hc hk _ _ ih =>
    obtain ⟨es, hes⟩ := ih h
    obtain ⟨g, hg, -⟩ := exists_gap k
    obtain ⟨fs, hfs⟩ := es.exists_gap_append g
    exact passed_form (.object fs) (by rw [hk, hg, hs, hes]; simp [Form.text, hfs])
  | case10 fuel cs m hm => exact passed_number true hm h
  | case11 fuel cs c m hm => exact passed_number false hm h
  | case12 fuel cs k hk =>
    exact passed_form (.leaf (.word .null)) (by rw [hk, eq_append_of_passWord h]; rfl)
  | case13 fuel cs k hk =>
    exact passed_form (.leaf (.word (.boolean true))) (by rw [hk, eq_append_of_passWord h]; rfl)
  | case14 fuel cs k hk =>
    exact passed_form (.leaf (.word (.boolean false))) (by rw [hk, eq_append_of_passWord h]; rfl)
  | case17 fuel cs s hs =>
    obtain ⟨a, ha, -⟩ := exists_gap cs
    cases h
    refine ⟨a.chars ++ [']'], by rw [ha, hs]; simp, fun b v => ⟨.last b v a, by simp [Items.text]⟩⟩
  | case18 fuel cs s hs _ ihv ihi =>
    obtain ⟨m, hm, hr⟩ := bind_eq_ok_iff.mp h
    obtain ⟨is, rfl⟩ := passed_list (ihv hm) (ihi m hr)
    obtain ⟨a, ha, -⟩ := exists_gap cs
    refine ⟨a.chars ++ ',' :: is.text, by rw [ha, hs]; simp, fun b v => ⟨.more b v a is, ?_⟩⟩
    simp [Items.text]
  | case22 fuel cs q k hk hq ihv ihe =>
    have hq' : q = '"' := by simpa using hq
    subst hq'
    obtain ⟨c, hc, h⟩ := bind_eq_ok_iff.mp h
    cases hcolon : skipSpace c with
    | nil => simp [hcolon] at h
    | cons d v =>
      by_cases hd : d = ':'
      · subst hd
        simp only [hcolon, ne_eq, not_true_eq_false, if_false] at h
        obtain ⟨w, hw, h⟩ := bind_eq_ok_iff.mp h
        obtain ⟨b, key, g, g', t, hcs⟩ := passed_entry hk hc hcolon (ihv v hw)
        cases hend : skipSpace w with
        | nil => simp [hend] at h
        | cons e s =>
          simp only [hend] at h
          by_cases he : e = '}'
          · subst he
            simp only [if_true, Except.ok.injEq] at h
            exact h ▸ passed_entries_end hcs hend
          · by_cases he' : e = ','
            · subst he'
              exact passed_entries_more hcs hend (ihe s h)
            · simp [he, he'] at h
      · simp [hcolon, hd] at h

/-! ## Whole texts -/

theorem Gap.skipSpace_chars (g : Gap) : skipSpace g.chars = [] := by
  simpa using skipSpace_gap g (stops_nil isSpace)

theorem Gap.stops_number_end (g : Gap) : Stops isNumberChar g.chars := by
  cases hg : g.chars with
  | nil => simp
  | cons c r =>
    have h := (⟨[], by simp⟩ : Gap).stops_number (c := c) (r := r) (by
      rcases isSpace_iff.mp (g.blank c (by simp [hg])) with rfl | rfl | rfl | rfl <;> decide)
    simpa using h

theorem passText_text (w : Writing) : passText w.text = .ok () := by
  have hpass := w.form.pass_text (w.text.length + 1) w.before w.after.chars
    (by simp only [Writing.text, List.length_append]; omega) w.after.stops_number_end
  rw [← Writing.text] at hpass
  simp [passText, hpass, w.after.skipSpace_chars, bind, Except.bind]

theorem exists_writing {cs : List Char} (h : passText cs = .ok ()) : ∃ w : Writing, w.text = cs := by
  obtain ⟨r, hr, h⟩ := bind_eq_ok_iff.mp h
  obtain ⟨g, t, hcs⟩ := passed_of_pass hr
  obtain ⟨a, ha, -⟩ := exists_gap r
  cases hend : skipSpace r with
  | nil => exact ⟨⟨g, t, a⟩, by rw [hcs, ha, hend]; simp [Writing.text]⟩
  | cons c s => simp [hend] at h

/-- The checker accepts exactly the texts of JSON. -/
theorem check_eq_ok_iff {cs : List Char} : check cs = .ok () ↔ ∃ w : Writing, w.text = cs := by
  have hcheck : check cs = .ok () ↔ passText cs = .ok () := by
    cases hp : passText cs <;> simp [check, hp]
  rw [hcheck]
  constructor
  · exact exists_writing
  · rintro ⟨w, rfl⟩
    exact passText_text w

end DocLint.Json
