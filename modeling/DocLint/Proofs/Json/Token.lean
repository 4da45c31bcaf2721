import DocLint.Proofs.Json.Form

/-!
# Proofs: the checker on literals

For each kind of literal the checker passes over exactly the texts of that kind: whatever it passes over
is the text of a literal, and in front of a text that cannot continue the literal it passes over all of
it. A number goes on as long as it can, so only there what follows matters.

Other readers look for the end of a string without telling its escapes apart. What they need to know of a string of
the grammar is said here once (`enclosed_inside`).
-/

namespace DocLint.Json

open DocLint.Text

/-! ## Where a run of characters ends -/

/-- The text does not start with a character of the class `p`. -/
def Stops (p : Char → Bool) (cs : List Char) : Prop :=
  ∀ c ∈ cs.head?, p c = false

@[simp] theorem stops_nil (p : Char → Bool) : Stops p [] := by
  simp [Stops]

@[simp] theorem stops_cons {p : Char → Bool} {c : Char} {r : List Char} :
    Stops p (c :: r) ↔ p c = false := by
  simp [Stops]

theorem Stops.mono {p q : Char → Bool} {cs : List Char} (h : Stops q cs)
    (hpq : ∀ c, p c = true → q c = true) : Stops p cs := by
  intro c hc
  have hq := h c hc
  cases hp : p c with
  | false => rfl
  | true => rw [hpq c hp] at hq; exact hq

theorem dropWhile_eq_of_stops {p : Char → Bool} {r : List Char} (hr : Stops p r) :
    r.dropWhile p = r := by
  cases r with
  | nil => rfl
  | cons c r => simp [stops_cons.mp hr]

theorem dropWhile_append_of_stops {p : Char → Bool} {a r : List Char} (ha : ∀ c ∈ a, p c = true)
    (hr : Stops p r) : (a ++ r).dropWhile p = r := by
  rw [List.dropWhile_append_of_pos ha, dropWhile_eq_of_stops hr]

theorem takeWhile_append_of_stops {p : Char → Bool} {a r : List Char} (ha : ∀ c ∈ a, p c = true)
    (hr : Stops p r) : (a ++ r).takeWhile p = a := by
  rw [List.takeWhile_append_of_pos ha]
  cases r with
  | nil => simp
  | cons c r => simp [stops_cons.mp hr]

theorem stops_dropWhile (p : Char → Bool) (cs : List Char) : Stops p (cs.dropWhile p) := by
  intro c hc
  have h := List.head?_dropWhile_not p cs
  rw [Option.mem_def] at hc
  rw [hc] at h
  simpa using h

theorem isSpace_iff {c : Char} : isSpace c = true ↔ c = ' ' ∨ c = '\t' ∨ c = '\n' ∨ c = '\r' := by
  simp [isSpace, or_assoc]

/-- A text starts with white space and goes on with something else. -/
theorem exists_gap (cs : List Char) :
    ∃ g : Gap, cs = g.chars ++ skipSpace cs ∧ Stops isSpace (skipSpace cs) :=
  ⟨⟨cs.takeWhile isSpace, fun _ hc => List.all_eq_true.mp (List.all_takeWhile) _ hc⟩,
    (List.takeWhile_append_dropWhile).symm, stops_dropWhile isSpace cs⟩

theorem skipSpace_gap (g : Gap) {r : List Char} (hr : Stops isSpace r) :
    skipSpace (g.chars ++ r) = r :=
  dropWhile_append_of_stops g.blank hr

/-- After white space and a character outside a class that has no white space, the class stops. -/
theorem Gap.stops (g : Gap) {p : Char → Bool} (hp : ∀ c, isSpace c = true → p c = false)
    {r : List Char} (hr : Stops p r) : Stops p (g.chars ++ r) := by
  cases hg : g.chars with
  | nil => exact hr
  | cons c cs => exact stops_cons.mpr (hp c (g.blank c (by simp [hg])))

theorem skipSpace_skipSpace (cs : List Char) : skipSpace (skipSpace cs) = skipSpace cs := by
  obtain ⟨g, -, hstops⟩ := exists_gap cs
  exact dropWhile_eq_of_stops hstops

theorem pass_skipSpace (fuel : Nat) (p : Part) (cs : List Char) :
    pass fuel p (skipSpace cs) = pass fuel p cs := by
  cases fuel with
  | zero => simp [pass]
  | succ fuel => cases p <;> rw [pass.eq_def, pass.eq_def _ _ cs] <;> simp only [skipSpace_skipSpace]

/-! ## Digits -/

theorem passDigits_chars (ds : Digits) {r : List Char} (hr : Stops isDigit r) :
    passDigits (ds.chars ++ r) = .ok r := by
  obtain ⟨cs, hne, hd⟩ := ds
  cases cs with
  | nil => exact absurd rfl hne
  | cons c cs =>
    have hc : isDigit c = true := hd c (by simp)
    have htail : ∀ x ∈ cs, isDigit x = true := fun x hx => hd x (List.mem_cons_of_mem _ hx)
    simp [passDigits, hc, dropWhile_append_of_stops htail hr]

theorem exists_digits {cs r : List Char} (h : passDigits cs = .ok r) :
    ∃ ds : Digits, cs = ds.chars ++ r ∧ ds.chars.head? = cs.head? := by
  cases cs with
  | nil => simp [passDigits] at h
  | cons c cs =>
    by_cases hc : isDigit c = true
    · simp only [passDigits, hc, if_true, Except.ok.injEq] at h
      refine ⟨⟨c :: cs.takeWhile isDigit, by simp, ?_⟩, ?_, rfl⟩
      · intro x hx
        rcases List.mem_cons.mp hx with rfl | hx
        · exact hc
        · exact List.all_eq_true.mp List.all_takeWhile x hx
      · rw [← h, List.cons_append, List.takeWhile_append_dropWhile]
    · simp [passDigits, hc] at h

/-! ## Numbers -/

theorem passWhole_whole (n : Numeral) {r : List Char} (hr : Stops isDigit r) :
    passWhole (n.whole.chars ++ r) = .ok r := by
  obtain ⟨c, cs, hcs⟩ := List.exists_cons_of_ne_nil n.whole.nonempty
  by_cases hc : c = '0'
  · have hlone : n.whole.chars = ['0'] := n.canonical (by simp [hcs, hc])
    rw [hlone]
    cases r with
    | nil => simp [passWhole]
    | cons d r => simp [passWhole, stops_cons.mp hr]
  · have hpass := passDigits_chars n.whole hr
    rw [hcs, List.cons_append] at hpass ⊢
    simpa [passWhole, hc] using hpass

theorem passFraction_fractionText {f : Option Digits} {r : List Char} (hd : Stops isDigit r)
    (hp : Stops (fun c => c = '.') r) : passFraction (fractionText f ++ r) = .ok r := by
  cases f with
  | none =>
    cases r with
    | nil => rfl
    | cons c r =>
      have hc : c ≠ '.' := by simpa using hp
      simp [fractionText, passFraction, hc]
  | some ds => simpa [fractionText, passFraction] using passDigits_chars ds hd

/-- The letters that start an exponent. -/
def isMark (c : Char) : Bool := c = 'e' || c = 'E'

theorem isDigit_plus : isDigit '+' = false := by decide

theorem isDigit_minus : isDigit '-' = false := by decide

theorem Digits.head_ne_sign (ds : Digits) :
    ∃ c r, ds.chars = c :: r ∧ ¬ (c = '+' ∨ c = '-') := by
  obtain ⟨c, r, hcr⟩ := List.exists_cons_of_ne_nil ds.nonempty
  have hc : isDigit c = true := ds.digits c (by simp [hcr])
  refine ⟨c, r, hcr, ?_⟩
  rintro (rfl | rfl)
  · rw [isDigit_plus] at hc; exact absurd hc (by simp)
  · rw [isDigit_minus] at hc; exact absurd hc (by simp)

theorem passExponent_powerText {p : Option Power} {r : List Char} (hd : Stops isDigit r)
    (hm : Stops isMark r) : passExponent (powerText p ++ r) = .ok r := by
  cases p with
  | none =>
    cases r with
    | nil => rfl
    | cons c r =>
      have hc : ¬ (c = 'e' ∨ c = 'E') := by simpa [isMark] using hm
      simp [powerText, passExponent, hc]
  | some p =>
    have hpass := passDigits_chars p.digits hd
    obtain ⟨c, cs, hcs, hc⟩ := p.digits.head_ne_sign
    rw [hcs, List.cons_append] at hpass
    cases hs : p.sign <;>
      simp [powerText, Power.text, Sign.text, passExponent, p.mark_eq, hs, hcs, hc, hpass]

/-- What follows a fraction and an exponent does not start with a digit. -/
theorem powerText_stops {p : Option Power} {q : Char → Bool} {r : List Char} (he : q 'e' = false)
    (hE : q 'E' = false) (hr : Stops q r) : Stops q (powerText p ++ r) := by
  cases p with
  | none => exact hr
  | some p =>
    rcases p.mark_eq with h | h
    · simpa [powerText, Power.text, h] using he
    · simpa [powerText, Power.text, h] using hE

theorem passMagnitude_magnitude (n : Numeral) {r : List Char} (hr : Stops isNumberChar r) :
    passMagnitude (n.magnitude ++ r) = .ok r := by
  have hd : Stops isDigit r := hr.mono fun c hc => by simp [isNumberChar, hc]
  have hdot : Stops (fun c => c = '.') r := hr.mono fun c hc => by simp_all [isNumberChar]
  have hmark : Stops isMark r := hr.mono fun c hc => by
    simp only [isMark, Bool.or_eq_true, decide_eq_true_eq] at hc
    rcases hc with rfl | rfl <;> decide
  have hpower : Stops isDigit (powerText n.power ++ r) :=
    powerText_stops (by decide) (by decide) hd
  have hpowerDot : Stops (fun c => c = '.') (powerText n.power ++ r) :=
    powerText_stops (by decide) (by decide) hdot
  have hfraction : Stops isDigit (fractionText n.fraction ++ (powerText n.power ++ r)) := by
    cases n.fraction with
    | none => exact hpower
    | some ds => exact stops_cons.mpr (by decide)
  simp only [passMagnitude, Numeral.magnitude, List.append_assoc, passWhole_whole n hfraction,
    passFraction_fractionText hpower hpowerDot, passExponent_powerText hd hmark,
    bind, Except.bind]

theorem exists_whole {cs r : List Char} (h : passWhole cs = .ok r) :
    ∃ ds : Digits, (ds.chars.head? = some '0' → ds.chars = ['0']) ∧ cs = ds.chars ++ r := by
  cases cs with
  | nil => simp [passWhole] at h
  | cons c cs =>
    by_cases hc : c = '0'
    · subst hc
      have hrest : cs = r := by
        cases cs with
        | nil => simpa [passWhole] using h
        | cons d cs =>
          by_cases hd : isDigit d = true
          · simp [passWhole, hd] at h
          · simpa [passWhole, hd] using h
      have hzero : ∀ c ∈ ['0'], isDigit c = true := by
        intro c hc
        rw [List.mem_singleton.mp hc]
        decide
      exact ⟨⟨['0'], by simp, hzero⟩, fun _ => rfl, by simp [hrest]⟩
    · simp only [passWhole, hc, if_false] at h
      obtain ⟨ds, hds, hhead⟩ := exists_digits h
      refine ⟨ds, fun h0 => ?_, hds⟩
      rw [hhead] at h0
      exact absurd (by simpa using h0) hc

theorem exists_fraction {cs r : List Char} (h : passFraction cs = .ok r) :
    ∃ f : Option Digits, cs = fractionText f ++ r := by
  cases cs with
  | nil => exact ⟨none, by simpa [passFraction, fractionText] using h⟩
  | cons c cs =>
    by_cases hc : c = '.'
    · simp only [passFraction, hc, if_true] at h
      obtain ⟨ds, hds, -⟩ := exists_digits h
      exact ⟨some ds, by simp [fractionText, hc, hds]⟩
    · exact ⟨none, by simpa [passFraction, hc, fractionText] using h⟩

theorem exists_power {cs r : List Char} (h : passExponent cs = .ok r) :
    ∃ p : Option Power, cs = powerText p ++ r := by
  cases cs with
  | nil => exact ⟨none, by simpa [passExponent, powerText] using h⟩
  | cons c cs =>
    by_cases hc : c = 'e' ∨ c = 'E'
    · have hsigned : ∃ (s : Sign) (ds : Digits), cs = s.text ++ (ds.chars ++ r) := by
        cases cs with
        | nil => simp [passExponent, hc, passDigits] at h
        | cons s cs =>
          by_cases hs : s = '+' ∨ s = '-'
          · simp only [passExponent, hc, hs, if_true] at h
            obtain ⟨ds, hds, -⟩ := exists_digits h
            rcases hs with rfl | rfl
            · exact ⟨.plus, ds, by simp [Sign.text, hds]⟩
            · exact ⟨.minus, ds, by simp [Sign.text, hds]⟩
          · simp only [passExponent, hc, hs, if_true, if_false] at h
            obtain ⟨ds, hds, -⟩ := exists_digits h
            exact ⟨.none, ds, by simpa [Sign.text] using hds⟩
      obtain ⟨s, ds, hcs⟩ := hsigned
      exact ⟨some ⟨c, hc, s, ds⟩, by simp [powerText, Power.text, hcs]⟩
    · exact ⟨none, by simpa [passExponent, hc, powerText] using h⟩

theorem exists_magnitude {cs r : List Char} (h : passMagnitude cs = .ok r) (negative : Bool) :
    ∃ n : Numeral, n.negative = negative ∧ cs = n.magnitude ++ r := by
  cases hw : passWhole cs with
  | error e => simp [passMagnitude, hw, bind, Except.bind] at h
  | ok r₁ =>
    cases hf : passFraction r₁ with
    | error e => simp [passMagnitude, hw, hf, bind, Except.bind] at h
    | ok r₂ =>
      have hp : passExponent r₂ = .ok r := by
        simpa [passMagnitude, hw, hf, bind, Except.bind] using h
      obtain ⟨ds, hcanonical, hcs⟩ := exists_whole hw
      obtain ⟨f, hr₁⟩ := exists_fraction hf
      obtain ⟨p, hr₂⟩ := exists_power hp
      exact ⟨⟨negative, ds, hcanonical, f, p⟩, rfl, by simp [Numeral.magnitude, hcs, hr₁, hr₂]⟩

/-! ## Words -/

theorem eq_append_of_passWord {w cs r : List Char} (h : passWord w cs = .ok r) : cs = w ++ r := by
  induction w generalizing cs with
  | nil => simpa [passWord] using h
  | cons c w ih =>
    cases cs with
    | nil => simp [passWord] at h
    | cons d cs =>
      by_cases hd : d = c
      · simp only [passWord, hd, if_true] at h
        rw [hd, ih h, List.cons_append]
      · simp [passWord, hd] at h

/-! ## Strings -/

theorem simpleEscape_u : simpleEscape? 'u' = none := by decide

theorem Piece.short_ne_u {c : Char} (h : (simpleEscape? c).isSome = true) : c ≠ 'u' := by
  rintro rfl
  rw [simpleEscape_u] at h
  exact absurd h (by simp)

theorem insideText_cons (p : Piece) (ps : List Piece) (r : List Char) :
    insideText (p :: ps) ++ '"' :: r = p.text ++ (insideText ps ++ '"' :: r) := by
  simp [insideText]

theorem passString_inside (ps : List Piece) (r : List Char) :
    passString (insideText ps ++ '"' :: r) = .ok r := by
  induction ps with
  | nil => rw [passString.eq_def]; simp [insideText]
  | cons p ps ih =>
    rw [insideText_cons]
    cases p with
    | plain c h =>
      obtain ⟨hq, hb, hc⟩ := h
      simp only [Piece.text, List.cons_append, List.nil_append]
      rw [passString.eq_def]
      simpa [hq, hb, hc] using ih
    | short c h =>
      simp only [Piece.text, List.cons_append, List.nil_append]
      rw [passString.eq_def]
      simpa [Piece.short_ne_u h, h] using ih
    | code a b c d h =>
      simp only [Piece.text, List.cons_append, List.nil_append]
      rw [passString.eq_def]
      simpa [h] using ih

theorem exists_inside {cs r : List Char} (h : passString cs = .ok r) :
    ∃ ps : List Piece, cs = insideText ps ++ '"' :: r := by
  fun_induction passString cs with
  | case1 => simp at h
  | case2 r' => exact ⟨[], by simpa [insideText] using h⟩
  | case3 => simp at h
  | case4 a b c d r' hq _ ih =>
    obtain ⟨ps, hps⟩ := ih h
    exact ⟨.code a b c d hq :: ps, by simp [insideText, Piece.text, hps]⟩
  | case5 => simp at h
  | case6 => simp at h
  | case7 c r' hu he _ ih =>
    obtain ⟨ps, hps⟩ := ih h
    exact ⟨.short c he :: ps, by simp [insideText, Piece.text, hps]⟩
  | case8 => simp at h
  | case9 => simp at h
  | case10 c r' hq hb hc ih =>
    obtain ⟨ps, hps⟩ := ih h
    exact ⟨.plain c ⟨hq, hb, hc⟩ :: ps, by simp [insideText, Piece.text, hps]⟩

/-! ## Inside a string

To find the end of a string it is enough to know what a backslash does: escapes by a letter and by digits need not
be told apart. -/

/-- The characters can stand inside a string: no quote among them closes it, and a backslash comes with the character
behind it. -/
inductive Enclosed : List Char → Prop where
  /-- Nothing. -/
  | nil : Enclosed []
  /-- A character that is neither a quote nor a backslash, in front. -/
  | plain {c : Char} {cs : List Char} (hq : c ≠ '"') (hb : c ≠ '\\') (h : Enclosed cs) : Enclosed (c :: cs)
  /-- A backslash and any character, in front. -/
  | escape {c : Char} {cs : List Char} (h : Enclosed cs) : Enclosed ('\\' :: c :: cs)

theorem isSome_hexValue_of_foldlM {cs : List Char} {n : Nat}
    (h : (cs.foldlM (fun n c => (hexValue? c).map (16 * n + ·)) n).isSome = true) :
    ∀ c ∈ cs, (hexValue? c).isSome = true := by
  induction cs generalizing n with
  | nil => simp
  | cons c cs ih =>
    cases hc : hexValue? c with
    | none => simp [hc] at h
    | some v =>
      rw [List.foldlM_cons, hc] at h
      intro d hd
      rcases List.mem_cons.mp hd with rfl | hd
      · simp [hc]
      · exact ih h d hd

/-- Hexadecimal digits are neither quotes nor backslashes. -/
theorem Enclosed.digits {ds cs : List Char} (hds : ∀ c ∈ ds, (hexValue? c).isSome = true) (h : Enclosed cs) :
    Enclosed (ds ++ cs) := by
  induction ds with
  | nil => exact h
  | cons c ds ih =>
    have hc : (hexValue? c).isSome = true := hds c List.mem_cons_self
    refine .plain ?_ ?_ (ih fun d hd => hds d (List.mem_cons_of_mem c hd))
    · rintro rfl
      exact absurd hc (by decide)
    · rintro rfl
      exact absurd hc (by decide)

/-- What stands between the quotes of a string of the grammar. -/
theorem enclosed_inside : ∀ ps : List Piece, Enclosed (insideText ps)
  | [] => .nil
  | .plain _ h :: ps => .plain h.1 h.2.1 (enclosed_inside ps)
  | .short _ _ :: ps => .escape (enclosed_inside ps)
  | .code _ _ _ _ h :: ps => .escape ((enclosed_inside ps).digits (isSome_hexValue_of_foldlM h))

end DocLint.Json
