import DocLint.Profile
import DocLint.Proofs.Document.Navigation
import DocLint.Proofs.Selector.Reach

/-!
# Proofs: keys written bare

Keys that stand one behind the other with dots between them are a selector of just these keys, as long as none of them
could be taken for something else: a wildcard, an index, several names, or white space to be trimmed. A dollar sign in
front stands for the root, so the first key must not start with one.
-/

namespace DocLint

open DocLint.Text DocLint.Json

/-- A key that nothing but itself is written like, after a dot. -/
structure BareKey (k : String) : Prop where
  /-- There is a character. -/
  nonempty : k ≠ ""
  /-- No character ends a name. -/
  plain : ∀ c ∈ k.toList, c ≠ '.' ∧ c ≠ '['
  /-- It is no wildcard. -/
  noStar : k ≠ "*"
  /-- It is no index. -/
  noIndex : ∃ c ∈ k.toList, isDigit c = false
  /-- There is no white space at its ends. -/
  solid : Solid k.toList

namespace BareKey

theorem exists_cons {k : String} (h : BareKey k) : ∃ c r, k.toList = c :: r := by
  refine List.exists_cons_of_ne_nil fun hnil => h.nonempty ?_
  exact String.toList_inj.mp hnil

theorem endsName_eq_false {k : String} (h : BareKey k) : ∀ c ∈ k.toList, Selector.endsName c = false := by
  intro c hc
  obtain ⟨hdot, hbracket⟩ := h.plain c hc
  simp [Selector.endsName, hdot, hbracket]

theorem nameText {k : String} (h : BareKey k) : Selector.NameText k.toList (.key k) := by
  have hnonempty : k.toList ≠ [] := by
    obtain ⟨c, r, hk⟩ := h.exists_cons
    rw [hk]
    exact List.cons_ne_nil c r
  have hstar : k.toList ≠ ['*'] := fun heq => h.noStar (String.toList_inj.mp heq)
  have hkey := Selector.NameText.key hnonempty hstar h.noIndex
  rwa [String.ofList_toList] at hkey

theorem of_chars {cs : List Char} (hplain : (cs.all fun c => c ≠ '.' ∧ c ≠ '[' ∧ isBlank c = false) = true)
    (hstar : cs ≠ ['*']) (hindex : cs.all isDigit = false) : BareKey (String.ofList cs) := by
  have hchars : ∀ c ∈ cs, c ≠ '.' ∧ c ≠ '[' ∧ isBlank c = false := by
    intro c hc
    exact of_decide_eq_true (List.all_eq_true.mp hplain c hc)
  have hdigit : ∃ c ∈ cs, isDigit c = false := by
    obtain ⟨c, hc, hno⟩ := List.all_eq_false.mp hindex
    exact ⟨c, hc, Bool.not_eq_true _ ▸ hno⟩
  refine ⟨?_, ?_, ?_, ?_, ?_⟩
  · obtain ⟨c, hc, -⟩ := hdigit
    rw [Ne, String.ofList_eq_empty_iff]
    exact List.ne_nil_of_mem hc
  · intro c hc
    rw [String.toList_ofList] at hc
    exact ⟨(hchars c hc).1, (hchars c hc).2.1⟩
  · intro heq
    apply hstar
    have htexts := congrArg String.toList heq
    rwa [String.toList_ofList] at htexts
  · rw [String.toList_ofList]
    exact hdigit
  · rw [String.toList_ofList]
    rintro c (hc | hc)
    · exact (hchars c (List.mem_of_head? hc)).2.2
    · exact (hchars c (List.mem_of_getLast? hc)).2.2

end BareKey

namespace Selector

/-! ## Dotted texts -/

/-- Keys with a dot in front of each. -/
def dottedKeys (ks : List String) : List Char :=
  ks.flatMap fun k => '.' :: k.toList

theorem dottedKeys_cons (k : String) (ks : List String) :
    dottedKeys (k :: ks) = '.' :: (k.toList ++ dottedKeys ks) := rfl

theorem toList_intercalate_keys (k : String) (ks : List String) :
    (".".intercalate (k :: ks)).toList = k.toList ++ dottedKeys ks := by
  induction ks generalizing k with
  | nil => simp [dottedKeys]
  | cons k' ks ih =>
    have hrest := ih k'
    rw [String.intercalate_cons_cons, String.toList_append, String.toList_append, hrest, dottedKeys_cons,
      List.append_assoc]
    rfl

theorem stops_dottedKeys (ks : List String) : Stops (fun c => !endsName c) (dottedKeys ks) := by
  cases ks with
  | nil => exact stops_nil _
  | cons k ks =>
    rw [dottedKeys_cons, stops_cons]
    rfl

/-- Keys with dots in front are their own steps. -/
theorem stepsText_dottedKeys {ks : List String} (h : ∀ k ∈ ks, BareKey k) :
    StepsText (dottedKeys ks) (ks.map .key) := by
  induction ks with
  | nil => exact .nil
  | cons k ks ih =>
    have hk : BareKey k := h k List.mem_cons_self
    have hfirst : StepText ('.' :: (k.toList ++ dottedKeys ks)) (.key k) (dottedKeys ks) :=
      .dot hk.endsName_eq_false (stops_dottedKeys ks) hk.nameText
    exact .cons hfirst (ih fun k' hk' => h k' (List.mem_cons_of_mem k hk'))

theorem dotted_dottedKeys (ks : List String) : Dotted (dottedKeys ks) (dottedKeys ks) := by
  cases ks with
  | nil => exact .nil
  | cons k ks => exact .there rfl

/-- The first key gets its dot. -/
theorem dotted_keys {k : String} (h : BareKey k) (ks : List String) :
    Dotted (k.toList ++ dottedKeys ks) (dottedKeys (k :: ks)) := by
  obtain ⟨c, r, hk⟩ := h.exists_cons
  have hc : endsName c = false := h.endsName_eq_false c (hk ▸ List.mem_cons_self)
  rw [dottedKeys_cons, hk]
  exact .name hc

/-! ## White space -/

theorem solid_append_dottedKeys {a : List Char} (ha : Solid a) {ks : List String} (h : ∀ k ∈ ks, BareKey k)
    (hne : a ≠ []) : Solid (a ++ dottedKeys ks) := by
  rintro c (hc | hc)
  · rw [List.head?_append_of_ne_nil a hne] at hc
    exact ha c (.inl hc)
  · rcases List.eq_nil_or_concat ks with rfl | ⟨front, k, rfl⟩
    · rw [dottedKeys, List.flatMap_nil, List.append_nil] at hc
      exact ha c (.inr hc)
    · -- The text ends as the last key does.
      have hk : BareKey k := h k (by simp)
      obtain ⟨d, r, hd⟩ := hk.exists_cons
      have hsplit : a ++ dottedKeys (front.concat k) = (a ++ dottedKeys front ++ ['.']) ++ k.toList := by
        simp [dottedKeys]
      have hnonempty : k.toList ≠ [] := by
        rw [hd]
        exact List.cons_ne_nil d r
      rw [hsplit, List.getLast?_append_of_ne_nil _ hnonempty] at hc
      exact hk.solid c (.inr hc)

/-! ## Reading -/

section
variable {k : String} {ks : List String}

theorem trimmed_keys (h : ∀ x ∈ k :: ks, BareKey x) :
    Trimmed (".".intercalate (k :: ks)).toList (k.toList ++ dottedKeys ks) := by
  have hk : BareKey k := h k List.mem_cons_self
  have hne : k.toList ≠ [] := by
    obtain ⟨c, r, hc⟩ := hk.exists_cons
    rw [hc]
    exact List.cons_ne_nil c r
  rw [toList_intercalate_keys]
  exact (solid_append_dottedKeys hk.solid (fun x hx => h x (List.mem_cons_of_mem k hx)) hne).trimmed

theorem read_keys {steps : List Step} (h : ∀ x ∈ k :: ks, BareKey x)
    (hsteps : ∃ u b, Undollared (k.toList ++ dottedKeys ks) u ∧ Dotted u b ∧ StepsText b steps) :
    read (".".intercalate (k :: ks)) = .ok ⟨".".intercalate (k :: ks), steps⟩ := by
  obtain ⟨u, b, hu, hb, hss⟩ := hsteps
  have htrim : trim (".".intercalate (k :: ks)) = ".".intercalate (k :: ks) := by
    rw [trim, trimChars_eq_of_trimmed (trimmed_keys h), ← toList_intercalate_keys, String.ofList_toList]
  have hread := read_eq_ok_iff.mpr ⟨_, u, b, trimmed_keys h, hu, hb, hss⟩
  rwa [htrim] at hread

theorem read_keys_of_head (h : ∀ x ∈ k :: ks, BareKey x) (hdollar : k.toList.head? ≠ some '$') :
    read (".".intercalate (k :: ks)) = .ok ⟨".".intercalate (k :: ks), (k :: ks).map .key⟩ := by
  have hk : BareKey k := h k List.mem_cons_self
  obtain ⟨c, r, hc⟩ := hk.exists_cons
  have hhead : (k.toList ++ dottedKeys ks).head? ≠ some '$' := by
    rw [hc] at hdollar ⊢
    exact hdollar
  exact read_keys h ⟨_, _, .none hhead, dotted_keys hk ks, stepsText_dottedKeys h⟩

theorem read_keys_of_root (h : ∀ x ∈ k :: ks, BareKey x) (hroot : k = "$") :
    read (".".intercalate (k :: ks)) = .ok ⟨".".intercalate (k :: ks), ks.map .key⟩ := by
  have hrest : ∀ x ∈ ks, BareKey x := fun x hx => h x (List.mem_cons_of_mem k hx)
  have hdollar : Undollared (k.toList ++ dottedKeys ks) (dottedKeys ks) := by
    rw [hroot]
    exact .one
  exact read_keys h ⟨_, _, hdollar, dotted_dottedKeys ks, stepsText_dottedKeys hrest⟩

end

/-! ## Selecting -/

/-- The selector looks at one path: it finds the node that the path leads to, or tells the child that is missing at the
node where the path ends early. -/
def LooksAt (s : Selector) (p : Path) : Prop :=
  ∀ root : Node,
    (∀ x, root.resolve p = .ok x → s.select root = [.found x]) ∧
    ∀ e, root.resolve p = .error e →
      ∃ before t after m, p = before ++ t :: after ∧ root.resolve before = .ok m ∧ m.get? t = .error e ∧
        s.select root = [.missing m e]

theorem looksAt_of_steps {s : Selector} {p : Path} (h : s.steps = p.map stepOf) : s.LooksAt p := by
  intro root
  constructor
  · intro x hx
    rw [select, h]
    exact Node.select_of_resolve hx
  · intro e he
    obtain ⟨before, t, after, m, rfl, hm, ht⟩ := Node.exists_step_of_resolve_error he
    refine ⟨before, t, after, m, rfl, hm, ht, ?_⟩
    rw [select, h, List.map_append, List.map_cons, Node.select_append_of_resolve hm, Node.select_stepOf_of_error ht]

end Selector

/-- The text is read as the selector of the keys, and what a policy checks under this text is the path of the keys. -/
def Selector.Means (text : String) (keys : List String) : Prop :=
  Selector.read text = .ok ⟨text, keys.map .key⟩ ∧
  ∀ e : PolicyEntry, e.path = text →
    ((∃ c, e.compile = .ok c) ↔ ∃ f, e.family = .ok f) ∧
    ∀ c, e.compile = .ok c → c.selector.LooksAt (keys.map .key)

theorem Selector.means_of_read {text : String} {keys : List String}
    (h : Selector.read text = .ok ⟨text, keys.map .key⟩) : Selector.Means text keys := by
  refine ⟨h, ?_⟩
  rintro e rfl
  constructor
  · rw [PolicyEntry.compile, h]
    constructor
    · rintro ⟨c, hc⟩
      obtain ⟨f, hf, -⟩ := map_eq_ok_iff.mp hc
      exact ⟨f, hf⟩
    · rintro ⟨f, hf⟩
      exact ⟨_, map_eq_ok_iff.mpr ⟨f, hf, rfl⟩⟩
  · intro c hc
    rw [PolicyEntry.compile, h] at hc
    obtain ⟨f, -, rfl⟩ := map_eq_ok_iff.mp hc
    apply Selector.looksAt_of_steps
    rw [List.map_map]
    rfl

/-- Bare keys with dots between them are the selector of these keys, and a policy that writes a path so checks this
path, unless the first key starts with a dollar sign. The key that is a dollar sign alone is the root, and the path is
that of the keys behind it. -/
theorem read_bare_keys {k : String} {ks : List String} (h : ∀ x ∈ k :: ks, BareKey x) :
    let text := ".".intercalate (k :: ks)
    (k.toList.head? ≠ some '$' → Selector.Means text (k :: ks)) ∧ (k = "$" → Selector.Means text ks) := by
  intro text
  constructor
  · intro hdollar
    exact Selector.means_of_read (Selector.read_keys_of_head h hdollar)
  · intro hroot
    exact Selector.means_of_read (Selector.read_keys_of_root h hroot)

/-- Behind the first key a dollar sign is a character like any other. -/
theorem read_bare_keys_reference :
    let k := String.ofList ['d', 'e', 'f', 's']
    let reference := String.ofList ['$', 'r', 'e', 'f']
    (∀ x ∈ [k, reference], BareKey x) ∧ k.toList.head? ≠ some '$' ∧
      Selector.Means (".".intercalate [k, reference]) [k, reference] := by
  intro k reference
  have hkeys : ∀ x ∈ [k, reference], BareKey x := by
    rw [List.forall_mem_cons, List.forall_mem_singleton]
    exact ⟨BareKey.of_chars (by decide) (by decide) (by decide), BareKey.of_chars (by decide) (by decide) (by decide)⟩
  have hhead : k.toList.head? ≠ some '$' := by
    rw [String.toList_ofList]
    decide
  exact ⟨hkeys, hhead, (read_bare_keys hkeys).1 hhead⟩

/-- A first key that starts with a dollar sign is not read back: alone the sign is the root, and in front of other
characters it is left out. -/
theorem not_read_bare_dollar :
    let root := String.ofList ['$']
    let a := String.ofList ['a']
    let reference := String.ofList ['$', 'r', 'e', 'f']
    (∀ x ∈ [root, a], BareKey x) ∧
    Selector.read (".".intercalate [root, a]) = .ok ⟨".".intercalate [root, a], [.key a]⟩ ∧
    (∀ x ∈ [reference], BareKey x) ∧
    Selector.read (".".intercalate [reference]) =
      .ok ⟨".".intercalate [reference], [.key (String.ofList ['r', 'e', 'f'])]⟩ ∧
    ¬ ∀ keys : List String, keys ≠ [] → (∀ x ∈ keys, BareKey x) →
      ∃ s, Selector.read (".".intercalate keys) = .ok s ∧ s.steps = keys.map .key := by
  intro root a reference
  have hroot : ∀ x ∈ [root, a], BareKey x := by
    rw [List.forall_mem_cons, List.forall_mem_singleton]
    exact ⟨BareKey.of_chars (by decide) (by decide) (by decide), BareKey.of_chars (by decide) (by decide) (by decide)⟩
  have hreference : ∀ x ∈ [reference], BareKey x := by
    rw [List.forall_mem_singleton]
    exact BareKey.of_chars (by decide) (by decide) (by decide)
  have hread := Selector.read_keys_of_root hroot rfl
  have hname : BareKey (String.ofList ['r', 'e', 'f']) := BareKey.of_chars (by decide) (by decide) (by decide)
  have hdropped : Selector.read (".".intercalate [reference]) =
      .ok ⟨".".intercalate [reference], [.key (String.ofList ['r', 'e', 'f'])]⟩ := by
    have hsteps : Selector.StepsText (Selector.dottedKeys [String.ofList ['r', 'e', 'f']])
        [.key (String.ofList ['r', 'e', 'f'])] := Selector.stepsText_dottedKeys (by simpa using hname)
    have hfirst := Selector.dotted_keys hname []
    refine Selector.read_keys hreference ⟨_, _, ?_, hfirst, hsteps⟩
    simp only [reference, String.toList_ofList]
    exact .one
  refine ⟨hroot, hread, hreference, hdropped, ?_⟩
  intro hall
  obtain ⟨s, hs, hsteps⟩ := hall [root, a] (List.cons_ne_nil root [a]) hroot
  cases hread.symm.trans hs
  have hlength := congrArg List.length hsteps
  simp at hlength

end DocLint
