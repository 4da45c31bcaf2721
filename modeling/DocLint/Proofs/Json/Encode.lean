import DocLint.Proofs.Json.Quoted

/-!
# Proofs: written strings are read back

A text is written character by character, and decoding undoes the writing of each character. So a written text is
decoded to what it was.
-/

namespace DocLint.Json

open DocLint.Text

/-! ## One character -/

theorem quad_control : ∀ n < 0x20, quad? '0' '0' (hexDigit (n / 16)) (hexDigit (n % 16)) = some n := by
  decide

theorem eq_ofNat {c : Char} {n : Nat} (h : c.toNat = n) : c = Char.ofNat n := by
  rw [← h, Char.ofNat_toNat]

/-- What is written for a character: an escape by a letter that stands for it, its number, or itself. -/
theorem escape_cases (c : Char) :
    (∃ e, escape c = ['\\', e] ∧ simpleEscape? e = some c) ∨
      (escape c = ['\\', 'u', '0', '0', hexDigit (c.toNat / 16), hexDigit (c.toNat % 16)] ∧ c.toNat < 0x20) ∨
      (escape c = [c] ∧ c ≠ '"' ∧ c ≠ '\\' ∧ ¬ c.toNat < 0x20) := by
  unfold escape
  split
  · case isTrue h => exact .inl ⟨'"', rfl, by rw [h]; rfl⟩
  split
  · case isTrue h => exact .inl ⟨'\\', rfl, by rw [h]; rfl⟩
  split
  · case isTrue h => exact .inl ⟨'b', rfl, by rw [eq_ofNat h]; rfl⟩
  split
  · case isTrue h => exact .inl ⟨'f', rfl, by rw [eq_ofNat h]; rfl⟩
  split
  · case isTrue h => exact .inl ⟨'n', rfl, by rw [h]; rfl⟩
  split
  · case isTrue h => exact .inl ⟨'r', rfl, by rw [h]; rfl⟩
  split
  · case isTrue h => exact .inl ⟨'t', rfl, by rw [h]; rfl⟩
  split
  · case isTrue h => exact .inr (.inl ⟨rfl, h⟩)
  · case isFalse hquote hslash _ _ _ _ _ hcontrol => exact .inr (.inr ⟨rfl, hquote, hslash, hcontrol⟩)

/-- Decoding undoes the writing of a character. -/
theorem decodeInside_escape (c : Char) (r : List Char) :
    decodeInside (escape c ++ r) = (decodeInside r).map fun p => (c :: p.1, p.2) := by
  rcases escape_cases c with ⟨e, htext, he⟩ | ⟨htext, hcontrol⟩ | ⟨htext, hquote, hslash, hcontrol⟩
  · have hu : e ≠ 'u' := Piece.short_ne_u (by rw [he]; rfl)
    simp only [htext, List.cons_append, List.nil_append]
    rw [decodeInside.eq_def]
    simp [hu, he]
  · have hquad := quad_control c.toNat hcontrol
    have hlow : isLowSurrogate c.toNat = false := by simp [isLowSurrogate]; omega
    have hhigh : isHighSurrogate c.toNat = false := by simp [isHighSurrogate]; omega
    simp only [htext, List.cons_append, List.nil_append]
    rw [decodeInside.eq_def]
    simp [hquad, hlow, hhigh, Char.ofNat_toNat]
  · rw [htext, List.singleton_append, decodeInside.eq_def]
    simp only [hquote, hslash, hcontrol, if_false]

/-! ## Whole strings -/

theorem decodeInside_encode (cs r : List Char) :
    decodeInside (cs.flatMap escape ++ '"' :: r) = .ok (cs, r) := by
  induction cs with
  | nil => exact decodeInside_quote r
  | cons c cs ih =>
    rw [List.flatMap_cons, List.append_assoc, decodeInside_escape, ih]
    rfl

/-- A written text is decoded to what it was. -/
theorem decode_encode (cs : List Char) : decode (encode cs) = .ok cs := by
  have hfront : decodeFront (encode cs) = decodeInside (cs.flatMap escape ++ ['"']) := by
    simp [encode, decodeFront]
  rw [decode, hfront, decodeInside_encode]

end DocLint.Json
