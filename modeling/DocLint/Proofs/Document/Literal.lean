import DocLint.Proofs.Document.Cursor
import DocLint.Proofs.Json.Grammar
import DocLint.Proofs.Json.Number
import DocLint.Proofs.Json.Quoted

/-!
# Proofs: the literals that have a value

A literal of the grammar stands for a scalar unless it is a number too large for a double or a string with
half of a surrogate pair. Only strings need a closing quote to be found: no character of another literal
ends it, so the reader takes such a literal whole and decodes it as what it is.
-/

namespace DocLint

open DocLint.Text DocLint.Json Cursor

/-! ## Decoding -/

/-- The scalar that a word stands for. -/
def Json.Word.scalar : Word → Scalar
  | null => .null
  | boolean b => .boolean b

/-- The scalar that a literal stands for, or why it stands for none. -/
def Json.Leaf.decode : Leaf → Except Fault Scalar
  | word w => .ok w.scalar
  | number n =>
    match Number.ofLiteral? n.text with
    | some v => .ok (.number v)
    | none => .error ((Halt.before .numberOutOfRange (Literal.excessRest n.text)).locate n.text)
  | string ps => (Json.decode (quotedText ps)).map fun s => .string (String.ofList s)

/-- A literal that stands for a scalar: any word, a finite number, a string whose surrogates are paired. -/
def Json.Leaf.Decodable : Leaf → Prop
  | word _ => True
  | number n => n.Finite
  | string ps => Paired ps

/-- The decodable literals are those that are decoded. -/
theorem Json.Leaf.exists_decode_iff_decodable (l : Leaf) : (∃ v, l.decode = .ok v) ↔ l.Decodable := by
  cases l with
  | word w => simp [decode, Decodable]
  | number n =>
    rw [Decodable, ← n.ofLiteral_isSome_iff, decode]
    cases Number.ofLiteral? n.text <;> simp
  | string ps =>
    rw [Decodable, ← exists_decode_iff, decode]
    cases Json.decode (quotedText ps) <;> simp [Except.map]

/-! ## The end of a literal -/

theorem endsLiteral_iff {c : Char} :
    endsLiteral c = true ↔ isSpace c = true ∨ c = ',' ∨ c = ']' ∨ c = '}' ∨ c = ':' := by
  simp [endsLiteral, or_assoc]

theorem endsLiteral_of_isNumberChar {c : Char} (h : isNumberChar c = true) : endsLiteral c = false := by
  cases hend : endsLiteral c with
  | false => rfl
  | true =>
    rcases endsLiteral_iff.mp hend with hs | rfl | rfl | rfl | rfl
    · rcases isSpace_iff.mp hs with rfl | rfl | rfl | rfl <;> exact absurd h (by decide)
    all_goals exact absurd h (by decide)

theorem isNumberChar_of_isDigit {c : Char} (h : isDigit c = true) : isNumberChar c = true := by
  simp [isNumberChar, h]

theorem isNumberChar_of_mem_digits (ds : Digits) : ∀ c ∈ ds.chars, isNumberChar c = true :=
  fun c hc => isNumberChar_of_isDigit (ds.digits c hc)

/-- A numeral is made of the characters of numbers. -/
theorem Json.Numeral.isNumberChar_of_mem (n : Numeral) : ∀ c ∈ n.text, isNumberChar c = true := by
  have hfraction : ∀ c ∈ fractionText n.fraction, isNumberChar c = true := by
    cases n.fraction with
    | none => simp [fractionText]
    | some ds =>
      intro c hc
      rcases List.mem_cons.mp hc with rfl | hc
      · decide
      · exact isNumberChar_of_mem_digits ds c hc
  have hsign : ∀ s : Sign, ∀ c ∈ s.text, isNumberChar c = true := by
    intro s c hc
    cases s <;> simp only [Sign.text, List.mem_singleton, List.not_mem_nil] at hc <;> subst hc <;> decide
  have hpower : ∀ c ∈ powerText n.power, isNumberChar c = true := by
    cases n.power with
    | none => simp [powerText]
    | some p =>
      intro c hc
      simp only [powerText, Power.text, List.mem_cons, List.mem_append] at hc
      rcases hc with rfl | hc | hc
      · rcases p.mark_eq with h | h <;> rw [h] <;> decide
      · exact hsign p.sign c hc
      · exact isNumberChar_of_mem_digits p.digits c hc
  have hmagnitude : ∀ c ∈ n.magnitude, isNumberChar c = true := by
    intro c hc
    simp only [magnitude, List.mem_append] at hc
    rcases hc with hc | hc | hc
    · exact isNumberChar_of_mem_digits n.whole c hc
    · exact hfraction c hc
    · exact hpower c hc
  intro c hc
  cases hn : n.negative with
  | false =>
    simp only [text, hn, Bool.false_eq_true, if_false] at hc
    exact hmagnitude c hc
  | true =>
    simp only [text, hn, if_true, List.mem_cons] at hc
    rcases hc with rfl | hc
    · decide
    · exact hmagnitude c hc

/-- No character of a literal other than a string ends it. -/
theorem Json.Leaf.endsLiteral_of_mem {l : Leaf} (hl : ∀ ps, l ≠ .string ps) :
    ∀ c ∈ l.text, endsLiteral c = false := by
  cases l with
  | word w =>
    have hall : w.text.all (fun c => !endsLiteral c) = true := by rcases w with _ | _ | _ <;> decide
    intro c hc
    simpa using List.all_eq_true.mp hall c hc
  | number n => exact fun c hc => endsLiteral_of_isNumberChar (n.isNumberChar_of_mem c hc)
  | string ps => exact absurd rfl (hl ps)

/-- A literal other than a string starts with no character that opens another kind of value. -/
theorem Json.Leaf.text_head {l : Leaf} (hl : ∀ ps, l ≠ .string ps) :
    ∃ c r, l.text = c :: r ∧ c ≠ '{' ∧ c ≠ '[' ∧ c ≠ '"' := by
  cases l with
  | word w => rcases w with _ | _ | _ <;> exact ⟨_, _, rfl, by decide⟩
  | number n =>
    obtain ⟨c, r, hcr, hc⟩ := n.text_head
    refine ⟨c, r, hcr, ?_⟩
    rcases hc with rfl | hc
    · decide
    · refine ⟨?_, ?_, ?_⟩ <;> rintro rfl <;> exact absurd hc (by decide)
  | string ps => exact absurd rfl (hl ps)

/-- The reader decodes a literal other than a string as what it is. -/
theorem Json.Leaf.ofLiteral_text {l : Leaf} (hl : ∀ ps, l ≠ .string ps) :
    Scalar.ofLiteral l.text = l.decode.mapError .literal := by
  cases l with
  | word w => rcases w with _ | _ | _ <;> simp [text, Word.text, Scalar.ofLiteral, decode, Word.scalar]
  | number n =>
    have hall : n.text.all isNumberChar = true := List.all_eq_true.mpr n.isNumberChar_of_mem
    have hword : ∀ w : Word, n.text ≠ w.text := by
      intro w hw
      rw [hw] at hall
      rcases w with _ | _ | _ <;> exact absurd hall (by decide)
    have hnull := hword .null
    have htrue := hword (.boolean true)
    have hfalse := hword (.boolean false)
    simp only [Word.text] at hnull htrue hfalse
    simp only [text, Scalar.ofLiteral, hnull, htrue, hfalse, hall, decode, if_false, if_true]
    cases Number.ofLiteral? n.text <;> rfl
  | string ps => exact absurd rfl (hl ps)

end DocLint
