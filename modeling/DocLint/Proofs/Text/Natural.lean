import DocLint.Text.Natural

/-!
# Proofs: written numbers are read back

A number is read from every nonempty run of ASCII digits whose value fits a 64-bit word (`word_eq_some_iff`), and
it is written as such a run. So a number that fits is read back, with or without a sign being allowed.
-/

namespace DocLint.Text

theorem isDigit_of_mem_decimal {n : Nat} {c : Char} (h : c ∈ decimal n) : isDigit c = true := by
  have hdigit := Nat.isDigit_of_mem_toDigits (by decide) (by decide) h
  simp only [Char.isDigit, Bool.and_eq_true, decide_eq_true_eq] at hdigit
  simp only [isDigit, Bool.and_eq_true, decide_eq_true_eq]
  exact hdigit

theorem digitsValue_decimal (n : Nat) : digitsValue (decimal n) = n :=
  Nat.ofDigitChars_toDigits (by decide) (by decide)

theorem decimal_ne_nil (n : Nat) : decimal n ≠ [] :=
  Nat.toDigits_ne_nil

/-- Only zero is written with a leading zero. -/
theorem eq_zero_of_head_decimal {n : Nat} (h : (decimal n).head? = some '0') : n = 0 := by
  induction n using Nat.strongRecOn with
  | ind n ih =>
    rw [decimal, Nat.toDigits_eq_if (by decide)] at h
    split at h
    · case isTrue hlt =>
      have hdigits : ∀ d < 10, [Nat.digitChar d].head? = some '0' → d = 0 := by decide
      exact hdigits n hlt h
    · case isFalse hle =>
      obtain ⟨d, ds, hds⟩ := List.exists_cons_of_ne_nil (decimal_ne_nil (n / 10))
      rw [decimal] at hds
      rw [hds, List.cons_append, List.head?_cons] at h
      have hzero : n / 10 = 0 := ih (n / 10) (by omega) (by rw [decimal, hds, List.head?_cons, h])
      omega

/-- The text is a run of ASCII digits for the number `n`, which fits a 64-bit word. -/
structure WordText (cs : List Char) (n : Nat) : Prop where
  /-- There is a digit. -/
  nonempty : cs ≠ []
  /-- There is nothing but digits. -/
  digits : ∀ c ∈ cs, isDigit c = true
  /-- They stand for the number. -/
  value : digitsValue cs = n
  /-- It fits. -/
  fits : n < wordLimit

theorem word_eq_some_iff {cs : List Char} {n : Nat} : word? cs = some n ↔ WordText cs n := by
  constructor
  · intro h
    unfold word? at h
    split at h
    · cases h
    · case isFalse hrun =>
      simp only [Bool.or_eq_true, Bool.not_eq_true', not_or, List.isEmpty_iff, Bool.not_eq_false] at hrun
      simp only [Option.ite_none_right_eq_some, Option.some.injEq] at h
      obtain ⟨hfits, rfl⟩ := h
      exact ⟨hrun.1, List.all_eq_true.mp hrun.2, rfl, hfits⟩
  · rintro ⟨hne, hdigits, rfl, hfits⟩
    have hempty : cs.isEmpty = false := List.isEmpty_eq_false_iff.mpr hne
    have hall : cs.all isDigit = true := List.all_eq_true.mpr hdigits
    simp [word?, hempty, hall, hfits]

theorem WordText.head_ne_plus {cs : List Char} {n : Nat} (h : WordText cs n) : ∀ r, cs ≠ '+' :: r := by
  rintro r rfl
  exact absurd (h.digits '+' List.mem_cons_self) (by decide)

/-- With a sign allowed, the same numbers are read, and the sign may be a plus. -/
theorem signedWord_eq_some_iff {cs : List Char} {n : Nat} :
    signedWord? cs = some n ↔ ∃ ds, (cs = ds ∨ cs = '+' :: ds) ∧ WordText ds n := by
  constructor
  · intro h
    unfold signedWord? at h
    split at h
    · case h_1 ds => exact ⟨ds, .inr rfl, word_eq_some_iff.mp h⟩
    · exact ⟨cs, .inl rfl, word_eq_some_iff.mp h⟩
  · rintro ⟨ds, rfl | rfl, hds⟩
    · unfold signedWord?
      split
      · case h_1 r => exact absurd rfl (hds.head_ne_plus r)
      · exact word_eq_some_iff.mpr hds
    · exact word_eq_some_iff.mpr hds

theorem wordText_decimal {n : Nat} (h : n < wordLimit) : WordText (decimal n) n :=
  ⟨decimal_ne_nil n, fun _ hc => isDigit_of_mem_decimal hc, digitsValue_decimal n, h⟩

end DocLint.Text
