import DocLint.Proofs.Decimal.Scaling
import DocLint.Proofs.Json.Grammar

/-!
# Proofs: the numbers that have a value

The splitter finds the parts of a numeral in its text, and the digits that count are a natural of 64 bits. So
a numeral is decoded to a number exactly if scaling that natural by its power of ten does not leave the
doubles. An integer of 64 bits is not scaled at all.
-/

namespace DocLint.Json

open DocLint.Text DocLint.Decimal

/-! ## Splitting a numeral -/

/-- The parts of a numeral, as the splitter gives them. -/
def Numeral.literal (n : Numeral) : Literal where
  negative := n.negative
  whole := n.whole.chars
  fraction := n.fraction.map (·.chars)
  exponent := n.power.map fun p => (p.sign = .minus, p.digits.chars)

/-- What the splitter does after the sign. -/
theorem split_magnitude (n : Numeral) :
    let rest := fractionText n.fraction ++ powerText n.power
    n.magnitude.takeWhile isDigit = n.whole.chars ∧ n.magnitude.dropWhile isDigit = rest := by
  have hstops : Stops isDigit (fractionText n.fraction ++ powerText n.power) := by
    cases n.fraction with
    | none => simpa [fractionText] using powerText_stops (p := n.power) (by decide) (by decide) (stops_nil _)
    | some ds => exact stops_cons.mpr (by decide)
  exact ⟨takeWhile_append_of_stops n.whole.digits hstops, dropWhile_append_of_stops n.whole.digits hstops⟩

theorem head_ne_dot_of_power (p : Option Power) : (powerText p).head? ≠ some '.' := by
  cases p with
  | none => simp [powerText]
  | some p => rcases p.mark_eq with h | h <;> simp [powerText, Power.text, h]

theorem stops_digit_power (p : Option Power) : Stops isDigit (powerText p) := by
  simpa using powerText_stops (p := p) (r := []) (q := isDigit) (by decide) (by decide) (stops_nil _)

/-- What the splitter takes for the fraction. -/
theorem split_fraction (f : Option Digits) (p : Option Power) :
    let rest := fractionText f ++ powerText p
    (if rest.head? = some '.' then some (rest.tail.takeWhile isDigit) else none) = f.map (·.chars) ∧
      (if rest.head? = some '.' then rest.tail.dropWhile isDigit else rest) = powerText p := by
  cases f with
  | none => simp [fractionText, head_ne_dot_of_power]
  | some ds =>
    simp [fractionText, takeWhile_append_of_stops ds.digits (stops_digit_power p),
      dropWhile_append_of_stops ds.digits (stops_digit_power p)]

/-- What the splitter takes for the sign of an exponent. -/
theorem split_sign (p : Power) :
    (let r := p.sign.text ++ p.digits.chars
     if r.head? = some '-' then some (true, r.tail)
     else if r.head? = some '+' then some (false, r.tail)
     else some (false, r)) = some (decide (p.sign = .minus), p.digits.chars) := by
  obtain ⟨c, r, hcr, hc⟩ := p.digits.head_ne_sign
  cases hs : p.sign with
  | none => simp_all [Sign.text]
  | plus => simp [Sign.text]
  | minus => simp [Sign.text]

/-- The splitter finds the parts of a numeral. -/
theorem Numeral.split_text (n : Numeral) : Literal.split n.text = n.literal := by
  obtain ⟨htake, hdrop⟩ := split_magnitude n
  obtain ⟨hfraction, hrest⟩ := split_fraction n.fraction n.power
  have hhead : n.magnitude.head? ≠ some '-' := by
    obtain ⟨c, r, hcr, hc⟩ := n.whole.head_ne_sign
    intro h
    simp only [Numeral.magnitude, hcr, List.cons_append, List.head?_cons, Option.some.injEq] at h
    exact hc (Or.inr h)
  have hsign : decide (n.text.head? = some '-') = n.negative := by
    cases hn : n.negative <;> simp [Numeral.text, hn, hhead]
  have hbody : (if n.text.head? = some '-' then n.text.tail else n.text) = n.magnitude := by
    cases hn : n.negative <;> simp [Numeral.text, hn, hhead]
  simp only [Literal.split, hsign, hbody, htake, hdrop, hfraction, hrest, Numeral.literal]
  congr 1
  cases n.power with
  | none => rfl
  | some p => exact split_sign p

/-! ## The significand of a numeral -/

theorem takeDigits_lt {n : Nat} {cs : List Char} (h : n < 18446744073709551616) :
    (takeDigits n cs).1 < 18446744073709551616 := by
  induction cs generalizing n with
  | nil => exact h
  | cons c cs ih =>
    rw [takeDigits]
    split
    · case isTrue hnext => exact ih hnext
    · exact h

theorem Literal.significand_lt (l : Literal) : l.significand.value < 18446744073709551616 :=
  takeDigits_lt (takeDigits_lt (by decide))

theorem le_foldl_digits (cs : List Char) (n : Nat) : n ≤ cs.foldl (fun n c => 10 * n + digitValue c) n := by
  induction cs generalizing n with
  | nil => exact le_rfl
  | cons c cs ih =>
    rw [List.foldl_cons]
    exact le_trans (by omega) (ih (10 * n + digitValue c))

/-- Digits whose value fits are all taken. -/
theorem takeDigits_eq {n : Nat} {cs : List Char}
    (h : cs.foldl (fun n c => 10 * n + digitValue c) n < 18446744073709551616) :
    takeDigits n cs = (cs.foldl (fun n c => 10 * n + digitValue c) n, []) := by
  induction cs generalizing n with
  | nil => rfl
  | cons c cs ih =>
    rw [List.foldl_cons] at h ⊢
    have hnext : 10 * n + digitValue c < 18446744073709551616 := lt_of_le_of_lt (le_foldl_digits cs _) h
    rw [takeDigits]
    simp only [hnext, if_true]
    exact ih h

/-! ## Numerals with a value -/

/-- A numeral that a double is found for. Its significand is zero, or it is divided by a power of ten, or the doubles
nearest to the significand and to the power of ten that it is multiplied by have a product below the bound. -/
def Numeral.Finite (n : Numeral) : Prop :=
  n.literal.significand.value = 0 ∨ n.literal.scale < 0 ∨
    ∃ b t, Binary.ofRatio? ⟨n.literal.significand.value, 1⟩ = some b ∧
      Binary.ten? n.literal.scale.toNat = some t ∧ b.toRat * t.toRat < overflowBound

theorem word_lt_overflowBound {n : Nat} (h : n < 18446744073709551616) : (n : ℚ) < overflowBound := by
  have hn : (n : ℚ) < 18446744073709551616 := by exact_mod_cast h
  calc (n : ℚ) < 18446744073709551616 := hn
    _ = (2 : ℚ) ^ (64 : Int) := by norm_num
    _ ≤ (2 : ℚ) ^ (1023 : Int) := zpow_le_zpow_right₀ (by norm_num) (by norm_num)
    _ ≤ overflowBound := le_overflowBound

/-- The double of a numeral exists exactly if the numeral is finite. -/
theorem Numeral.double_isSome_iff (n : Numeral) : n.literal.double?.isSome = true ↔ n.Finite :=
  Binary.ofScaled_isSome_iff _ (word_lt_overflowBound n.literal.significand_lt) _

/-- An unscaled natural of 64 bits is a double. -/
theorem Literal.double_isSome_of_word {l : Literal} (hfraction : l.fraction = none) (hexponent : l.exponent = none)
    (h : digitsValue l.whole < 18446744073709551616) : l.double?.isSome = true := by
  have htake : takeDigits 0 l.whole = (digitsValue l.whole, []) := takeDigits_eq h
  have hsignificand : l.significand = ⟨digitsValue l.whole, 0⟩ := by
    simp [Literal.significand, htake, hfraction, takeDigits]
  have hscale : l.scale = 0 := by
    simp [Literal.scale, Literal.exponentValue, hexponent, hsignificand]
  rw [Literal.double?, hscale, hsignificand, Binary.ofScaled_isSome_iff _ (word_lt_overflowBound h)]
  obtain ⟨b, hb, hrange⟩ := Binary.exists_ofRatio (word_lt_overflowBound h)
  have hten : Binary.ten? 0 = some ⟨false, 4503599627370496, -52⟩ := by decide
  have hone : Binary.toRat ⟨false, 4503599627370496, -52⟩ = 1 := by
    rw [Binary.toRat_eq]
    norm_num
  refine .inr (.inr ⟨b, _, hb, hten, ?_⟩)
  rw [hone, mul_one]
  exact hrange.toRat_lt

/-- A numeral that is an integer of 64 bits is finite. -/
theorem Numeral.finite_of_integer (n : Numeral) {i : Int} (h : n.literal.integer? = some i) : n.Finite := by
  unfold Literal.integer? at h
  split at h
  · cases h
  · case isFalse hparts =>
    simp only [Bool.or_eq_true, not_or, Bool.not_eq_true, Option.isSome_eq_false_iff, Option.isNone_iff_eq_none]
      at hparts
    refine n.double_isSome_iff.mp (Literal.double_isSome_of_word hparts.1 hparts.2 ?_)
    dsimp only at h
    split at h
    all_goals
      split at h
      · simp only [fitsWord, Bool.and_eq_true, decide_eq_true_eq] at *
        omega
      · cases h

/-- A numeral has a value exactly if it is finite. -/
theorem Numeral.ofLiteral_isSome_iff (n : Numeral) :
    (Number.ofLiteral? n.text).isSome = true ↔ n.Finite := by
  rw [← n.double_isSome_iff, Number.ofLiteral?, n.split_text]
  cases hi : n.literal.integer? with
  | some i => simpa [hi] using n.double_isSome_iff.mpr (n.finite_of_integer hi)
  | none => simp

end DocLint.Json
