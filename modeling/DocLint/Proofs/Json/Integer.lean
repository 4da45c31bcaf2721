import DocLint.Proofs.Json.Number
import DocLint.Proofs.Text.Natural
import Mathlib.Data.List.Induction

/-!
# Proofs: numerals that are integers

A numeral without fraction and exponent stands for an integer of any size. It is decoded to that integer exactly if
it is no negative zero and the integer fits a signed or an unsigned 64-bit word; every other numeral is decoded to a
double (`Numeral.ofLiteral_cases`). An integer is written as the numeral it was decoded from, digit for digit, since
a numeral has no superfluous zero in front (`Numeral.integerText_integer`).
-/

namespace DocLint.Text

/-! ## Digits are written back -/

theorem digitValue_lt {c : Char} (h : isDigit c = true) : digitValue c < 10 := by
  obtain ⟨hlow, hhigh⟩ := Json.isDigit_iff.mp h
  rw [digitValue]
  omega

theorem digitChar_digitValue {c : Char} (h : isDigit c = true) : Nat.digitChar (digitValue c) = c := by
  obtain ⟨hlow, hhigh⟩ := Json.isDigit_iff.mp h
  apply Char.toNat_inj.mp
  rw [Nat.toNat_digitChar_of_lt_ten (digitValue_lt h), digitValue]
  omega

theorem decimal_digitValue {c : Char} (h : isDigit c = true) : decimal (digitValue c) = [c] := by
  rw [decimal, Nat.toDigits_of_lt_base (digitValue_lt h), digitChar_digitValue h]

theorem digitsValue_concat (ds : List Char) (c : Char) :
    digitsValue (ds ++ [c]) = 10 * digitsValue ds + digitValue c := by
  simp [digitsValue]

/-- Digits without a superfluous zero in front are the digits of their value. -/
theorem decimal_digitsValue {ds : List Char} (hne : ds ≠ []) (hdigits : ∀ c ∈ ds, isDigit c = true)
    (hzero : ds.head? = some '0' → ds = ['0']) : decimal (digitsValue ds) = ds := by
  induction ds using List.reverseRecOn with
  | nil => exact absurd rfl hne
  | append_singleton ds c ih =>
    have hc : isDigit c = true := hdigits c (by simp)
    rcases List.eq_nil_or_concat ds with rfl | ⟨front, last, hfront⟩
    · have hvalue : digitsValue [c] = digitValue c := by simp [digitsValue]
      rw [List.nil_append, hvalue, decimal_digitValue hc]
    · have hds : ds ≠ [] := by simp [hfront]
      -- A zero in front of more digits would be superfluous.
      have hhead : ds.head? ≠ some '0' := by
        intro h
        have hlone := hzero (by rw [List.head?_append, h]; rfl)
        have hlength := congrArg List.length hlone
        simp [hfront] at hlength
      have hwritten : decimal (digitsValue ds) = ds :=
        ih hds (fun d hd => hdigits d (List.mem_append_left [c] hd)) fun h => absurd h hhead
      have hpos : 0 < digitsValue ds := by
        rcases Nat.eq_zero_or_pos (digitsValue ds) with h | h
        · rw [h] at hwritten
          exact absurd (by rw [← hwritten]; rfl) hhead
        · exact h
      have happend := Nat.toDigits_append_toDigits (by decide) hpos (digitValue_lt hc)
      rw [← decimal, ← decimal, ← decimal, hwritten, decimal_digitValue hc] at happend
      rw [digitsValue_concat, ← happend]

end DocLint.Text

namespace DocLint.Json

open DocLint.Text

namespace Numeral

/-! ## Integers -/

/-- The numeral has neither a fraction nor an exponent. -/
def IsInteger (n : Numeral) : Prop :=
  n.fraction = none ∧ n.power = none

/-- The integer that the sign and the digits before the point stand for. -/
def integer (n : Numeral) : Int :=
  if n.negative then -(digitsValue n.whole.chars : Int) else digitsValue n.whole.chars

/-- The numeral is no negative zero, and its integer fits a signed or an unsigned 64-bit word. -/
def FitsWord (n : Numeral) : Prop :=
  n.text ≠ ['-', '0'] ∧ -2 ^ 63 ≤ n.integer ∧ n.integer ≤ 2 ^ 64 - 1

theorem decimal_whole (n : Numeral) : decimal (digitsValue n.whole.chars) = n.whole.chars :=
  decimal_digitsValue n.whole.nonempty n.whole.digits n.canonical

theorem digitsValue_whole_eq_zero_iff (n : Numeral) : digitsValue n.whole.chars = 0 ↔ n.whole.chars = ['0'] := by
  constructor
  · intro h
    rw [← n.decimal_whole, h]
    rfl
  · intro h
    rw [h]
    rfl

theorem text_of_isInteger {n : Numeral} (h : n.IsInteger) :
    n.text = if n.negative then '-' :: n.whole.chars else n.whole.chars := by
  obtain ⟨hfraction, hpower⟩ := h
  simp [text, magnitude, hfraction, hpower, fractionText, powerText]

theorem text_eq_minus_zero_iff {n : Numeral} (h : n.IsInteger) :
    n.text = ['-', '0'] ↔ n.negative = true ∧ digitsValue n.whole.chars = 0 := by
  rw [n.digitsValue_whole_eq_zero_iff, text_of_isInteger h]
  cases hn : n.negative with
  | true => simp
  | false =>
    obtain ⟨c, r, hcr, hc⟩ := n.whole.head_ne_sign
    have hne : c ≠ '-' := fun heq => hc (Or.inr heq)
    simp [hcr, hne]

/-- An integer that is no negative zero is written as the numeral. -/
theorem integerText_integer {n : Numeral} (h : n.IsInteger) (hzero : n.text ≠ ['-', '0']) :
    integerText n.integer = n.text := by
  rw [Ne, text_eq_minus_zero_iff h] at hzero
  rw [text_of_isInteger h, integer]
  cases hn : n.negative with
  | false => exact n.decimal_whole
  | true =>
    have hpos : digitsValue n.whole.chars ≠ 0 := fun h0 => hzero ⟨hn, h0⟩
    obtain ⟨k, hk⟩ := Nat.exists_eq_succ_of_ne_zero hpos
    have hdecimal := n.decimal_whole
    rw [hk] at hdecimal ⊢
    exact congrArg ('-' :: ·) hdecimal

theorem fitsWord_iff (i : Int) : fitsWord i = true ↔ -2 ^ 63 ≤ i ∧ i ≤ 2 ^ 64 - 1 := by
  simp only [fitsWord, Bool.and_eq_true, decide_eq_true_eq]
  omega

/-- The integers that the splitter's parts stand for. -/
theorem integer?_literal_eq_some_iff {n : Numeral} {i : Int} :
    n.literal.integer? = some i ↔ n.IsInteger ∧ n.FitsWord ∧ i = n.integer := by
  by_cases h : n.IsInteger
  · obtain ⟨hfraction, hpower⟩ := h
    have hzero := text_eq_minus_zero_iff (n := n) ⟨hfraction, hpower⟩
    rw [FitsWord, ← fitsWord_iff, Ne, hzero, Numeral.integer]
    cases hn : n.negative with
    | true =>
      have hparts : n.literal.integer? =
          if digitsValue n.whole.chars ≠ 0 ∧ fitsWord (-(digitsValue n.whole.chars : Int))
          then some (-(digitsValue n.whole.chars : Int)) else none := by
        simp [Literal.integer?, literal, hfraction, hpower, hn]
      rw [hparts, Option.ite_none_right_eq_some]
      simp [IsInteger, hfraction, hpower, eq_comm (a := i)]
    | false =>
      have hparts : n.literal.integer? = if fitsWord (digitsValue n.whole.chars : Int)
          then some (digitsValue n.whole.chars : Int) else none := by
        simp [Literal.integer?, literal, hfraction, hpower, hn]
      rw [hparts, Option.ite_none_right_eq_some]
      simp [IsInteger, hfraction, hpower, eq_comm (a := i)]
  · have hparts : (n.literal.fraction.isSome || n.literal.exponent.isSome) = true := by
      cases hf : n.fraction <;> cases hp : n.power <;> simp_all [literal, IsInteger]
    simp [Literal.integer?, hparts, h]

/-- A numeral with a value is an integer of 64 bits, or a double if it is anything else. -/
theorem ofLiteral_cases {n : Numeral} {v : Number} (h : Number.ofLiteral? n.text = some v) :
    (n.IsInteger ∧ n.FitsWord ∧ v = .integer n.integer) ∨ (¬ (n.IsInteger ∧ n.FitsWord) ∧ ∃ b, v = .double b) := by
  rw [Number.ofLiteral?, n.split_text] at h
  cases hi : n.literal.integer? with
  | some i =>
    obtain ⟨hinteger, hfits, rfl⟩ := integer?_literal_eq_some_iff.mp hi
    simp only [hi, Option.some.injEq] at h
    exact .inl ⟨hinteger, hfits, h.symm⟩
  | none =>
    simp only [hi, Option.map_eq_some_iff] at h
    obtain ⟨b, -, rfl⟩ := h
    refine .inr ⟨?_, b, rfl⟩
    rintro ⟨hinteger, hfits⟩
    rw [integer?_literal_eq_some_iff.mpr ⟨hinteger, hfits, rfl⟩] at hi
    cases hi

end Numeral

end DocLint.Json
