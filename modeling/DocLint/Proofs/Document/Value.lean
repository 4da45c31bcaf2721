import DocLint.Document.OfValue
import DocLint.Proofs.Document.Cutting
import DocLint.Proofs.Spanless

/-!
# Proofs: a text as a document and as a value

A text that gives a document gives a value too, and the value is that of the document: both readers are followed
along the same form. A mapping may repeat a key and an object may not, so the value of a mapping is made by
putting its entries one after the other.

Where no mapping repeats a key, nothing but paths and spans is lost on the way, and the document made of the
value is the document read from the text, without its spans.
-/

namespace DocLint

open DocLint.Text DocLint.Json

/-! ## The value of a node -/

/-- The value of a scalar. -/
def Scalar.toValue : Scalar → Json.Value
  | .null => .null
  | .boolean b => .boolean b
  | .number n => .number n
  | .string s => .string s

namespace Node

mutual

/-- The value of a node. -/
def toValue : Node → Json.Value
  | scalar _ _ v => v.toValue
  | sequence _ _ items => .array (toValues items)
  | mapping _ _ entries => .object (putEntries [] entries)

/-- The values of the nodes of a list. -/
def toValues : List Node → List Json.Value
  | [] => []
  | n :: r => toValue n :: toValues r

/-- Puts the values of some entries under their keys; `done` holds the entries that came before. -/
def putEntries (done : List (String × Json.Value)) : List (String × Node) → List (String × Json.Value)
  | [] => done
  | (k, n) :: r => putEntries (putEntry k (toValue n) done) r

end

end Node

/-! ## One step of the reader of values -/

namespace Json.Value

section Step

variable {fuel : Nat} {cs r s : List Char}

theorem readFront_skipSpace (fuel : Nat) (cs : List Char) : readFront? fuel (skipSpace cs) = readFront? fuel cs := by
  cases fuel with
  | zero => simp [readFront?]
  | succ fuel => rw [readFront?.eq_def, readFront?.eq_def _ cs]; simp only [skipSpace_skipSpace]

theorem readItems_skipSpace (fuel : Nat) (cs : List Char) : readItems? fuel (skipSpace cs) = readItems? fuel cs := by
  cases fuel with
  | zero => simp [readItems?]
  | succ fuel => rw [readItems?.eq_def, readItems?.eq_def _ cs]; simp only [readFront_skipSpace]

theorem readEntries_skipSpace (fuel : Nat) (done : List (String × Value)) (cs : List Char) :
    readEntries? fuel done (skipSpace cs) = readEntries? fuel done cs := by
  cases fuel with
  | zero => simp [readEntries?]
  | succ fuel => rw [readEntries?.eq_def, readEntries?.eq_def _ _ cs]; simp only [skipSpace_skipSpace]

theorem readFront_string {key : List Char} (h : skipSpace cs = '"' :: r) (hkey : decodeInside r = .ok (key, s)) :
    readFront? (fuel + 1) cs = some (.string (String.ofList key), s) := by
  rw [readFront?.eq_def]
  simp [h, hkey]

theorem readFront_emptyList (h : skipSpace cs = '[' :: r) (hr : skipSpace r = ']' :: s) :
    readFront? (fuel + 1) cs = some (.array [], s) := by
  rw [readFront?.eq_def]
  simp [h, hr]

theorem readFront_list {c : Char} {vs : List Value} {t : List Char} (h : skipSpace cs = '[' :: r)
    (hr : skipSpace r = c :: s) (hc : c ≠ ']') (hitems : readItems? fuel r = some (vs, t)) :
    readFront? (fuel + 1) cs = some (.array vs, t) := by
  rw [← readItems_skipSpace, hr] at hitems
  rw [readFront?.eq_def]
  simp [h, hr, hc, hitems]

theorem readFront_emptyObject (h : skipSpace cs = '{' :: r) (hr : skipSpace r = '}' :: s) :
    readFront? (fuel + 1) cs = some (.object [], s) := by
  rw [readFront?.eq_def]
  simp [h, hr]

theorem readFront_object {c : Char} {es : List (String × Value)} {t : List Char} (h : skipSpace cs = '{' :: r)
    (hr : skipSpace r = c :: s) (hc : c ≠ '}') (hentries : readEntries? fuel [] r = some (es, t)) :
    readFront? (fuel + 1) cs = some (.object es, t) := by
  rw [← readEntries_skipSpace, hr] at hentries
  rw [readFront?.eq_def]
  simp [h, hr, hc, hentries]

theorem readFront_word {w : Word} (h : skipSpace cs = w.text ++ r) :
    readFront? (fuel + 1) cs = some (w.scalar.toValue, r) := by
  rw [readFront?.eq_def]
  rcases w with _ | _ | _ <;> simp [h, Word.text, Word.scalar, Scalar.toValue]

theorem readFront_number {n : Numeral} {v : Number} (h : skipSpace cs = n.text ++ r) (hr : Stops isNumberChar r)
    (hv : Number.ofLiteral? n.text = some v) : readFront? (fuel + 1) cs = some (.number v, r) := by
  have htake : (n.text ++ r).takeWhile isNumberChar = n.text := takeWhile_append_of_stops n.isNumberChar_of_mem hr
  have hdrop : (n.text ++ r).dropWhile isNumberChar = r := dropWhile_append_of_stops n.isNumberChar_of_mem hr
  obtain ⟨c, t, hct, hc⟩ := n.text_head
  have hne : c ≠ '"' ∧ c ≠ '[' ∧ c ≠ '{' ∧ c ≠ 'n' ∧ c ≠ 't' ∧ c ≠ 'f' := by
    refine ⟨?_, ?_, ?_, ?_, ?_, ?_⟩ <;> rintro rfl <;> exact absurd hc (by decide)
  rw [hct, List.cons_append] at h htake hdrop
  rw [readFront?.eq_def]
  simp only [h, hne, if_false, htake, hdrop]
  rw [← hct, hv]
  rfl

theorem readItems_last {v : Value} {c : Char} (hv : readFront? fuel cs = some (v, r)) (hr : skipSpace r = c :: s)
    (hc : c ≠ ',') : readItems? (fuel + 1) cs = some ([v], s) := by
  rw [readItems?.eq_def]
  simp [hv, hr, hc]

theorem readItems_more {v : Value} {vs : List Value} {t : List Char} (hv : readFront? fuel cs = some (v, r))
    (hr : skipSpace r = ',' :: s) (hrest : readItems? fuel s = some (vs, t)) :
    readItems? (fuel + 1) cs = some (v :: vs, t) := by
  rw [readItems?.eq_def]
  simp [hv, hr, hrest]

theorem readEntries_last {done : List (String × Value)} {key t u : List Char} {v : Value} {c : Char}
    (hkey : decodeFront (skipSpace cs) = .ok (key, r)) (hcolon : skipSpace r = ':' :: s)
    (hv : readFront? fuel s = some (v, t)) (ht : skipSpace t = c :: u) (hc : c ≠ ',') :
    readEntries? (fuel + 1) done cs = some (putEntry (String.ofList key) v done, u) := by
  rw [readEntries?.eq_def]
  simp [hkey, hcolon, hv, ht, hc]

theorem readEntries_more {done es : List (String × Value)} {key t u x : List Char} {v : Value}
    (hkey : decodeFront (skipSpace cs) = .ok (key, r)) (hcolon : skipSpace r = ':' :: s)
    (hv : readFront? fuel s = some (v, t)) (ht : skipSpace t = ',' :: u)
    (hrest : readEntries? fuel (putEntry (String.ofList key) v done) u = some (es, x)) :
    readEntries? (fuel + 1) done cs = some (es, x) := by
  rw [readEntries?.eq_def]
  simp [hkey, hcolon, hv, ht, hrest]

end Step

end Json.Value

/-! ## Reading along a form -/

theorem readFront_leaf {l : Leaf} {v : Scalar} (hv : l.decode = .ok v) (fuel : Nat) (g : Gap) {r : List Char}
    (hr : Stops isNumberChar r) :
    Json.Value.readFront? (fuel + 1) (g.chars ++ (l.text ++ r)) = some (v.toValue, r) := by
  have hskip : skipSpace (g.chars ++ (l.text ++ r)) = l.text ++ r := skipSpace_gap g (Form.stops_space (.leaf l) r)
  cases l with
  | word w =>
    cases hv
    exact Json.Value.readFront_word hskip
  | number n =>
    simp only [Leaf.decode] at hv
    split at hv
    · case h_1 value hvalue =>
      cases hv
      exact Json.Value.readFront_number hskip hr hvalue
    · cases hv
  | string ps =>
    obtain ⟨key, hkey, rfl⟩ := map_eq_ok_iff.mp hv
    have hquote : skipSpace (g.chars ++ (quotedText ps ++ r)) = '"' :: (insideText ps ++ '"' :: r) := by
      simpa [Leaf.text, quotedText] using hskip
    exact Json.Value.readFront_string hquote (decodeInside_of_decode hkey r)

theorem decodeFront_entry (b : Gap) {k : List Piece} {name : List Char} (key : Json.decode (quotedText k) = .ok name)
    (g g' : Gap) (v r : List Char) : decodeFront (skipSpace (b.chars ++ (entryText k g g' v ++ r))) =
      .ok (name, g.chars ++ ':' :: (g'.chars ++ (v ++ r))) := by
  rw [skipSpace_entryText]
  exact decodeInside_of_decode key _

-- By recursion on how the node mirrors the form, as for the checker. A part of a form has a shorter text, so the
-- text bounds the fuel.
mutual

/-- The value of a form is that of the node that mirrors it, whatever follows it. -/
theorem Json.Form.Mirrors.readFront : ∀ {t : Form} {n : Node}, t.Mirrors n → ∀ (fuel : Nat) (g : Gap) (r : List Char),
    t.text.length ≤ fuel → Stops isNumberChar r →
    Json.Value.readFront? fuel (g.chars ++ (t.text ++ r)) = some (n.toValue, r)
  | t, _, _, 0, _, _, hf, _ => by
    obtain ⟨c, s, hcs, -⟩ := t.text_head
    simp [hcs] at hf
  | _, _, .leaf hv, fuel + 1, g, r, _, hr => readFront_leaf hv fuel g hr
  | _, _, @Form.Mirrors.emptyList i _ _, fuel + 1, g, r, _, _ => by
    have h : skipSpace (g.chars ++ ((Form.emptyList i).text ++ r)) = '[' :: (i.chars ++ ']' :: r) := by
      simpa [Form.text] using g.skipSpace_cons (r := i.chars ++ ']' :: r) (c := '[') (by decide)
    exact Json.Value.readFront_emptyList h (i.skipSpace_cons (by decide))
  | _, _, @Form.Mirrors.list is ns _ _ items, fuel + 1, g, r, hf, _ => by
    have h : skipSpace (g.chars ++ ((Form.list is).text ++ r)) = '[' :: (is.text ++ r) := by
      simpa [Form.text] using g.skipSpace_cons (r := is.text ++ r) (c := '[') (by decide)
    obtain ⟨c, s, hcs, hc⟩ := is.skipSpace_text r
    have hitems := items.readItems fuel r (by simpa [Form.text] using hf)
    exact Json.Value.readFront_list h hcs (ne_bracket_of_startsValue hc) hitems
  | _, _, @Form.Mirrors.emptyObject i _ _, fuel + 1, g, r, _, _ => by
    have h : skipSpace (g.chars ++ ((Form.emptyObject i).text ++ r)) = '{' :: (i.chars ++ '}' :: r) := by
      simpa [Form.text] using g.skipSpace_cons (r := i.chars ++ '}' :: r) (c := '{') (by decide)
    exact Json.Value.readFront_emptyObject h (i.skipSpace_cons (by decide))
  | _, _, @Form.Mirrors.object es ms _ _ entries, fuel + 1, g, r, hf, _ => by
    have h : skipSpace (g.chars ++ ((Form.object es).text ++ r)) = '{' :: (es.text ++ r) := by
      simpa [Form.text] using g.skipSpace_cons (r := es.text ++ r) (c := '{') (by decide)
    obtain ⟨s, hs⟩ := es.skipSpace_text r
    have hentries := entries.readEntries fuel [] r (by simpa [Form.text] using hf)
    exact Json.Value.readFront_object h hs (by decide) hentries

theorem Json.Items.Mirrors.readItems : ∀ {is : Items} {ns : List Node}, is.Mirrors ns → ∀ (fuel : Nat) (r : List Char),
    is.text.length ≤ fuel → Json.Value.readItems? fuel (is.text ++ r) = some (Node.toValues ns, r)
  | _, _, @Items.Mirrors.last b a v n value, fuel, r, hf => by
    have hlen : v.text.length + 1 ≤ fuel := by
      simp only [Items.text, List.length_append, List.length_singleton] at hf
      omega
    obtain ⟨fuel, rfl⟩ := Nat.exists_eq_add_one.mpr (Nat.lt_of_lt_of_le (Nat.succ_pos _) hlen)
    have hv := value.readFront fuel b (a.chars ++ ']' :: r) (by omega) (a.stops_number (by decide))
    have htext : (Items.last b v a).text ++ r = b.chars ++ (v.text ++ (a.chars ++ ']' :: r)) := by
      simp [Items.text]
    rw [htext]
    exact Json.Value.readItems_last hv (a.skipSpace_cons (by decide)) (by decide)
  | _, _, @Items.Mirrors.more b a v is n ns value rest, fuel, r, hf => by
    have hlen : v.text.length + is.text.length + 1 ≤ fuel := by
      simp only [Items.text, List.length_append, List.length_cons] at hf
      omega
    obtain ⟨fuel, rfl⟩ := Nat.exists_eq_add_one.mpr (Nat.lt_of_lt_of_le (Nat.succ_pos _) hlen)
    have hv := value.readFront fuel b (a.chars ++ ',' :: (is.text ++ r)) (by omega) (a.stops_number (by decide))
    have htext : (Items.more b v a is).text ++ r = b.chars ++ (v.text ++ (a.chars ++ ',' :: (is.text ++ r))) := by
      simp [Items.text]
    rw [htext]
    exact Json.Value.readItems_more hv (a.skipSpace_cons (by decide)) (rest.readItems fuel r (by omega))

theorem Json.Entries.Mirrors.readEntries : ∀ {es : Entries} {ms : List (String × Node)}, es.Mirrors ms →
    ∀ (fuel : Nat) (done : List (String × Json.Value)) (r : List Char), es.text.length ≤ fuel →
    Json.Value.readEntries? fuel done (es.text ++ r) = some (Node.putEntries done ms, r)
  | _, _, @Entries.Mirrors.last b g g' a k v name n key value, fuel, done, r, hf => by
    have hlen : v.text.length + 1 ≤ fuel := by
      simp only [Entries.text, entryText, List.length_append, List.length_cons] at hf
      omega
    obtain ⟨fuel, rfl⟩ := Nat.exists_eq_add_one.mpr (Nat.lt_of_lt_of_le (Nat.succ_pos _) hlen)
    have hv := value.readFront fuel g' (a.chars ++ '}' :: r) (by omega) (a.stops_number (by decide))
    have htext : (Entries.last b k g g' v a).text ++ r =
        b.chars ++ (entryText k g g' v.text ++ (a.chars ++ '}' :: r)) := by
      simp [Entries.text]
    rw [htext]
    exact Json.Value.readEntries_last (decodeFront_entry b key g g' _ _) (g.skipSpace_cons (by decide)) hv
      (a.skipSpace_cons (by decide)) (by decide)
  | _, _, @Entries.Mirrors.more b g g' a k v es name n ms key value rest, fuel, done, r, hf => by
    have hlen : v.text.length + es.text.length + 1 ≤ fuel := by
      simp only [Entries.text, entryText, List.length_append, List.length_cons] at hf
      omega
    obtain ⟨fuel, rfl⟩ := Nat.exists_eq_add_one.mpr (Nat.lt_of_lt_of_le (Nat.succ_pos _) hlen)
    have hv := value.readFront fuel g' (a.chars ++ ',' :: (es.text ++ r)) (by omega) (a.stops_number (by decide))
    have htext : (Entries.more b k g g' v a es).text ++ r =
        b.chars ++ (entryText k g g' v.text ++ (a.chars ++ ',' :: (es.text ++ r))) := by
      simp [Entries.text]
    rw [htext]
    exact Json.Value.readEntries_more (decodeFront_entry b key g g' _ _) (g.skipSpace_cons (by decide)) hv
      (a.skipSpace_cons (by decide)) (rest.readEntries fuel _ r (by omega))

end

/-- A text that gives a document is read as the value of the document. -/
theorem read_value {source : String} {d : Document} (h : Document.read source = .ok d) :
    Json.Value.read? source.toList = some d.root.toValue := by
  obtain ⟨w, hw⟩ := exists_writing_of_read h
  have hmirrors := (mirrors_of_read h hw).1
  have hcheck : check source.toList = .ok () := check_eq_ok_iff.mpr ⟨w, hw⟩
  have hlength : w.form.text.length ≤ 2 * source.toList.length + 2 := by
    rw [← hw]
    simp only [Writing.text, List.length_append]
    omega
  have hafter : Stops isNumberChar w.after.chars := w.after.stops_number_end
  have hread := hmirrors.readFront _ w.before w.after.chars hlength hafter
  rw [show w.before.chars ++ (w.form.text ++ w.after.chars) = source.toList from hw] at hread
  rw [Json.Value.read?, hcheck]
  simp [hread]

/-! ## The document of the value -/

namespace Node

theorem bareItems_eq_map (items : List Node) : bareItems items = items.map bare := by
  induction items with
  | nil => rfl
  | cons n r ih => rw [bareItems, ih, List.map_cons]

theorem bareEntries_eq_map (entries : List (String × Node)) :
    bareEntries entries = entries.map fun e => (e.1, e.2.bare) := by
  induction entries with
  | nil => rfl
  | cons e r ih => rw [bareEntries, ih, List.map_cons]

theorem itemsOfValues_toValues (items : List Node) :
    itemsOfValues (toValues items) = items.map fun n => ofValue n.toValue := by
  induction items with
  | nil => rfl
  | cons n r ih => rw [toValues, itemsOfValues, ih, List.map_cons]

theorem itemsOfValues_eq_map (items : List Json.Value) : itemsOfValues items = items.map ofValue := by
  induction items with
  | nil => rfl
  | cons v r ih => rw [itemsOfValues, ih, List.map_cons]

theorem entriesOfValues_eq_map (entries : List (String × Json.Value)) :
    entriesOfValues entries = entries.map fun e => (e.1, ofValue e.2) := by
  induction entries with
  | nil => rfl
  | cons e r ih => rw [entriesOfValues, ih, List.map_cons]

theorem entriesOfValues_map (entries : List (String × Node)) :
    entriesOfValues (entries.map fun e => (e.1, e.2.toValue)) = entries.map fun e => (e.1, ofValue e.2.toValue) := by
  rw [entriesOfValues_eq_map, List.map_map]
  rfl

theorem putEntry_of_not_mem {k : String} {v : Json.Value} {es : List (String × Json.Value)} (h : k ∉ es.map (·.1)) :
    putEntry k v es = es ++ [(k, v)] := by
  induction es with
  | nil => rfl
  | cons e es ih =>
    obtain ⟨hne, hrest⟩ := not_or.mp (List.mem_cons.not.mp h)
    rw [putEntry, if_neg (Ne.symm hne), ih hrest, List.cons_append]

/-- Entries under distinct keys are put one behind the other. -/
theorem putEntries_of_nodup {done : List (String × Json.Value)} {entries : List (String × Node)}
    (h : (done.map (·.1) ++ entries.map (·.1)).Nodup) :
    putEntries done entries = done ++ entries.map fun e => (e.1, e.2.toValue) := by
  induction entries generalizing done with
  | nil => simp [putEntries]
  | cons e r ih =>
    obtain ⟨k, n⟩ := e
    have hfresh : k ∉ done.map (·.1) := by
      intro hk
      exact (List.nodup_append.mp h).2.2 k hk k (by simp) rfl
    have hnext : ((done ++ [(k, n.toValue)]).map (·.1) ++ r.map (·.1)).Nodup := by
      simpa using h
    rw [putEntries, putEntry_of_not_mem hfresh, ih hnext]
    simp

/-- Where no key is repeated, the tree of the value of a node is the tree below it, without paths and spans. -/
theorem ofValue_toValue {n : Node} (h : n.Unrepeated) : ofValue n.toValue = n.bare := by
  revert h
  induction n using children_induction with
  | step n ih =>
    intro h
    have hchild : ∀ c ∈ n.children, ofValue c.toValue = c.bare := fun c hc => ih c hc (h.of_child hc)
    cases n with
    | scalar p s v => cases v <;> rfl
    | sequence p s items =>
      have hitems : ∀ c ∈ items, ofValue c.toValue = c.bare := hchild
      rw [toValue, ofValue, itemsOfValues_toValues, bare, bareItems_eq_map, List.map_congr_left hitems]
    | mapping p s entries =>
      have hkeys : (entries.map (·.1)).Nodup := h _ (self_mem_preorder _)
      have hentries : ∀ e ∈ entries, (e.1, ofValue e.2.toValue) = (e.1, e.2.bare) := fun e he => by
        rw [hchild e.2 (List.mem_map_of_mem he)]
      rw [toValue, putEntries_of_nodup (by simpa using hkeys), List.nil_append, ofValue, entriesOfValues_map, bare,
        bareEntries_eq_map, List.map_congr_left hentries]

mutual

/-- Placing a tree without paths and spans gives its paths back. -/
theorem spanless_place : ∀ (n : Node) (p : Path), (n.place p).spanless = n.bare.place p
  | .scalar _ _ v, p => rfl
  | .sequence _ _ items, p => by rw [place, spanless, spanlessItems_place items p 0, bare, place]
  | .mapping _ _ entries, p => by rw [place, spanless, spanlessEntries_place entries p, bare, place]

theorem spanlessItems_place : ∀ (items : List Node) (p : Path) (i : Nat),
    spanlessItems (placeItems p i items) = placeItems p i (bareItems items)
  | [], _, _ => rfl
  | n :: r, p, i => by
    rw [placeItems, spanlessItems, spanless_place n, spanlessItems_place r, bareItems, placeItems]

theorem spanlessEntries_place : ∀ (entries : List (String × Node)) (p : Path),
    spanlessEntries (placeEntries p entries) = placeEntries p (bareEntries entries)
  | [], _ => rfl
  | (k, n) :: r, p => by
    rw [placeEntries, spanlessEntries, spanless_place n, spanlessEntries_place r, bareEntries, placeEntries]

end

end Node

/-- Where no mapping repeats a key, the document of the value of a text is the one read from it, without its spans. -/
theorem ofValue_of_read {source : String} {d : Document} (h : Document.read source = .ok d)
    (hkeys : d.root.Unrepeated) : (Document.ofValue d.root.toValue).root = d.root.spanless := by
  obtain ⟨w, tree, hw, htree, rfl⟩ := exists_tree_of_read h
  have hbare : (Document.ofTree tree).root.bare = tree.bare :=
    (mirrors_of_read h hw).1.bare_eq (w.form.mirrors_tree htree)
  show (Node.ofValue (Document.ofTree tree).root.toValue).place Path.root = (tree.place Path.root).spanless
  rw [Node.ofValue_toValue hkeys, hbare, Node.spanless_place]

end DocLint
