import DocLint.Document.Span

/-!
# Proofs: places and cuts

The place of a character is its line and its column, counted from one. `cut` takes out of a text the
characters whose places lie in a span. Places grow along a text, so the cut at the places of the first and
the last character of a stretch is that stretch.
-/

namespace DocLint.Text

/-- The place right after a text: one more than its line breaks, and one more than the characters after
the last of them. -/
def place (before : List Char) : Nat × Nat :=
  (1 + before.count '\n', 1 + (before.reverse.takeWhile (· ≠ '\n')).length)

/-- A place that is not after another one. -/
def NotAfter (p q : Nat × Nat) : Prop :=
  p.1 < q.1 ∨ (p.1 = q.1 ∧ p.2 ≤ q.2)

instance (p q : Nat × Nat) : Decidable (NotAfter p q) :=
  inferInstanceAs (Decidable (_ ∨ _))

/-- The place lies in the span. -/
def Within (s : Span) (p : Nat × Nat) : Prop :=
  NotAfter (s.startLine, s.startColumn) p ∧ NotAfter p (s.endLine, s.endColumn)

instance (s : Span) (p : Nat × Nat) : Decidable (Within s p) :=
  inferInstanceAs (Decidable (_ ∧ _))

/-- The characters of a text, which `before` precedes, whose places lie in a span. -/
def cutAfter (s : Span) (before : List Char) : List Char → List Char
  | [] => []
  | c :: r =>
    if Within s (place before) then c :: cutAfter s (before ++ [c]) r else cutAfter s (before ++ [c]) r

/-- The characters of a text whose places lie in a span. -/
def cut (s : Span) (text : List Char) : List Char :=
  cutAfter s [] text

/-! ## Places grow -/

theorem place_nil : place [] = (1, 1) := by
  simp [place]

theorem place_newline (cs : List Char) : place (cs ++ ['\n']) = ((place cs).1 + 1, 1) := by
  simp [place]
  omega

theorem place_append_singleton {c : Char} (h : c ≠ '\n') (cs : List Char) :
    place (cs ++ [c]) = ((place cs).1, (place cs).2 + 1) := by
  simp [place, h]
  omega

theorem NotAfter.refl (p : Nat × Nat) : NotAfter p p :=
  Or.inr ⟨rfl, Nat.le_refl _⟩

theorem NotAfter.trans {p q r : Nat × Nat} (h : NotAfter p q) (h' : NotAfter q r) : NotAfter p r := by
  unfold NotAfter at *
  omega

/-- One character further the place is later. -/
theorem not_notAfter_step (cs : List Char) (c : Char) : ¬ NotAfter (place (cs ++ [c])) (place cs) := by
  by_cases h : c = '\n'
  · subst h
    rw [place_newline]
    unfold NotAfter
    omega
  · rw [place_append_singleton h]
    unfold NotAfter
    omega

theorem notAfter_step (cs : List Char) (c : Char) : NotAfter (place cs) (place (cs ++ [c])) := by
  have h := not_notAfter_step cs c
  unfold NotAfter at *
  omega

theorem notAfter_append (a b : List Char) : NotAfter (place a) (place (a ++ b)) := by
  induction b generalizing a with
  | nil => simpa using NotAfter.refl (place a)
  | cons c b ih =>
    have h := ih (a ++ [c])
    rw [List.append_assoc, List.singleton_append] at h
    exact (notAfter_step a c).trans h

/-- After more characters the place is later. -/
theorem not_notAfter_append {a b : List Char} (hb : b ≠ []) : ¬ NotAfter (place (a ++ b)) (place a) := by
  cases b with
  | nil => exact absurd rfl hb
  | cons c b =>
    intro h
    have hmore := notAfter_append (a ++ [c]) b
    rw [List.append_assoc, List.singleton_append] at hmore
    exact not_notAfter_step a c (hmore.trans h)

/-- A place that is before another one. -/
def Earlier (p q : Nat × Nat) : Prop :=
  p.1 < q.1 ∨ (p.1 = q.1 ∧ p.2 < q.2)

theorem earlier_iff {p q : Nat × Nat} : Earlier p q ↔ ¬ NotAfter q p := by
  unfold Earlier NotAfter
  omega

theorem Earlier.notAfter {p q : Nat × Nat} (h : Earlier p q) : NotAfter p q := by
  unfold Earlier NotAfter at *
  omega

theorem Earlier.trans_notAfter {p q r : Nat × Nat} (h : Earlier p q) (h' : NotAfter q r) : Earlier p r := by
  unfold Earlier NotAfter at *
  omega

theorem NotAfter.trans_earlier {p q r : Nat × Nat} (h : NotAfter p q) (h' : Earlier q r) : Earlier p r := by
  unfold Earlier NotAfter at *
  omega

theorem earlier_append (a : List Char) {b : List Char} (hb : b ≠ []) : Earlier (place a) (place (a ++ b)) :=
  earlier_iff.mpr (not_notAfter_append hb)

/-- The last character of a text is before whatever follows the text. -/
theorem earlier_dropLast {a : List Char} (ha : a ≠ []) : Earlier (place a.dropLast) (place a) := by
  have h := earlier_append a.dropLast (List.cons_ne_nil (a.getLast ha) [])
  rwa [List.dropLast_concat_getLast] at h

theorem notAfter_dropLast_append (a b : List Char) : NotAfter (place a.dropLast) (place (a ++ b).dropLast) := by
  by_cases ha : a = []
  · subst ha
    exact notAfter_append [] _
  by_cases hb : b = []
  · rw [hb, List.append_nil]
    exact NotAfter.refl _
  · rw [List.dropLast_append_of_ne_nil hb]
    exact (earlier_dropLast ha).notAfter.trans (notAfter_append a _)

/-! ## Cutting out a stretch -/

/-- The span of the stretch `b` that follows `a`. -/
def stretch (a b : List Char) : Span :=
  ⟨(place a).1, (place a).2, (place (a ++ b).dropLast).1, (place (a ++ b).dropLast).2⟩

theorem within_stretch_iff {a b p : List Char} :
    Within (stretch a b) (place p) ↔
      NotAfter (place a) (place p) ∧ NotAfter (place p) (place (a ++ b).dropLast) :=
  Iff.rfl

theorem cutAfter_append {s : Span} {a b : List Char} (r : List Char)
    (h : ∀ p q c, b = p ++ c :: q → Within s (place (a ++ p))) :
    cutAfter s a (b ++ r) = b ++ cutAfter s (a ++ b) r := by
  induction b generalizing a with
  | nil => simp
  | cons c b ih =>
    have hc : Within s (place a) := by simpa using h [] b c rfl
    have hrest : cutAfter s (a ++ [c]) (b ++ r) = b ++ cutAfter s (a ++ [c] ++ b) r := by
      refine ih fun p q d hd => ?_
      simpa using h (c :: p) q d (by simp [hd])
    simp [cutAfter, hc, hrest]

theorem cutAfter_skip {s : Span} {a b : List Char} (r : List Char)
    (h : ∀ p q c, b = p ++ c :: q → ¬ Within s (place (a ++ p))) :
    cutAfter s a (b ++ r) = cutAfter s (a ++ b) r := by
  induction b generalizing a with
  | nil => simp
  | cons c b ih =>
    have hc : ¬ Within s (place a) := by simpa using h [] b c rfl
    have hrest : cutAfter s (a ++ [c]) (b ++ r) = cutAfter s (a ++ [c] ++ b) r := by
      refine ih fun p q d hd => ?_
      simpa using h (c :: p) q d (by simp [hd])
    simp [cutAfter, hc, hrest]

theorem dropLast_append_prefix {a b p q : List Char} {c : Char} (h : b = p ++ c :: q) :
    ∃ m, (a ++ b).dropLast = a ++ p ++ m := by
  refine ⟨(c :: q).dropLast, ?_⟩
  rw [h, ← List.append_assoc, List.dropLast_append_of_ne_nil (by simp)]

/-- The cut at a stretch of a text is that stretch. -/
theorem cut_stretch {a b r : List Char} (hb : b ≠ []) : cut (stretch a b) (a ++ (b ++ r)) = b := by
  have hbefore : ∀ p q c, a = p ++ c :: q → ¬ Within (stretch a b) (place ([] ++ p)) := by
    intro p q c ha hw
    have hlate := (within_stretch_iff.mp hw).1
    rw [ha, List.nil_append] at hlate
    exact not_notAfter_append (by simp) hlate
  have hinside : ∀ p q c, b = p ++ c :: q → Within (stretch a b) (place (a ++ p)) := by
    intro p q c hp
    obtain ⟨m, hm⟩ := dropLast_append_prefix (a := a) hp
    rw [within_stretch_iff, hm]
    exact ⟨notAfter_append a p, notAfter_append (a ++ p) m⟩
  have hbehind : ∀ p q c, r = p ++ c :: q → ¬ Within (stretch a b) (place (a ++ b ++ p)) := by
    intro p q c _ hw
    have hearly := (within_stretch_iff.mp hw).2
    have hsplit : a ++ b ++ p = (a ++ b).dropLast ++ ((a ++ b).getLast (by simp [hb]) :: p) := by
      rw [← List.singleton_append, ← List.append_assoc, List.dropLast_concat_getLast]
    rw [hsplit] at hearly
    exact not_notAfter_append (by simp) hearly
  -- The text falls into what is before, in and behind the stretch, and only the middle part is kept.
  have hend := cutAfter_skip (s := stretch a b) [] hbehind
  rw [List.append_nil] at hend
  rw [cut, cutAfter_skip _ hbefore, List.nil_append, cutAfter_append _ hinside, hend]
  simp [cutAfter]

end DocLint.Text
