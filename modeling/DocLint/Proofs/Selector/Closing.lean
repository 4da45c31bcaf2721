import DocLint.Proofs.Document.Reading
import DocLint.Proofs.Selector.Language

/-!
# Proofs: where a string ends

The reader of documents (`Scanner::string`) and the reader of selectors (`closing_quote`) look for the end of a string
each in its own way: one passes two characters at a backslash, the other keeps in mind whether a backslash has escaped
the next character. Both find the first quote that is not escaped, that is, with an even number of backslashes in
front of it. So in front of any text both take exactly the string of the grammar and have it decoded.

Byte by byte the same quote is found, since no byte of a longer character looks like a quote or a backslash.
-/

namespace DocLint

open DocLint.Text DocLint.Json Cursor Selector

/-! ## Escaped places -/

namespace Json

/-- The number of backslashes at the end of a text. -/
def trailingSlashes (before : List Char) : Nat :=
  (before.reverse.takeWhile (· = '\\')).length

/-- The text escapes the character behind it: it ends with an odd number of backslashes. -/
def Escapes (before : List Char) : Prop :=
  trailingSlashes before % 2 = 1

instance (before : List Char) : Decidable (Escapes before) :=
  inferInstanceAs (Decidable (_ = _))

theorem not_escapes_nil : ¬ Escapes [] := by
  decide

/-- A backslash escapes what follows it unless it is escaped itself. -/
theorem escapes_append_singleton {before : List Char} {c : Char} :
    Escapes (before ++ [c]) ↔ c = '\\' ∧ ¬ Escapes before := by
  by_cases h : c = '\\'
  · subst h
    simp [Escapes, trailingSlashes]
    omega
  · simp [Escapes, trailingSlashes, h]

/-- The first quote of a text that is not escaped stands at the place `n`. The text `before` precedes the text. -/
structure ClosesAt (before cs : List Char) (n : Nat) : Prop where
  /-- There is a quote. -/
  quote : cs[n]? = some '"'
  /-- It is not escaped. -/
  free : ¬ Escapes (before ++ cs.take n)
  /-- The quotes in front of it are. -/
  first : ∀ i < n, cs[i]? = some '"' → Escapes (before ++ cs.take i)

theorem closesAt_zero_iff {before r : List Char} {c : Char} :
    ClosesAt before (c :: r) 0 ↔ c = '"' ∧ ¬ Escapes before := by
  constructor
  · rintro ⟨hquote, hfree, -⟩
    exact ⟨by simpa using hquote, by simpa using hfree⟩
  · rintro ⟨rfl, hfree⟩
    exact ⟨rfl, by simpa using hfree, fun i hi => absurd hi (Nat.not_lt_zero i)⟩

theorem closesAt_succ_iff {before r : List Char} {c : Char} {n : Nat} :
    ClosesAt before (c :: r) (n + 1) ↔ ¬ (c = '"' ∧ ¬ Escapes before) ∧ ClosesAt (before ++ [c]) r n := by
  have htake : ∀ i, before ++ (c :: r).take (i + 1) = before ++ [c] ++ r.take i := fun i => by simp
  constructor
  · rintro ⟨hquote, hfree, hfirst⟩
    refine ⟨fun ⟨hc, hnot⟩ => hnot ?_, hquote, htake n ▸ hfree, fun i hi hq => ?_⟩
    · simpa using hfirst 0 (Nat.succ_pos n) (by rw [hc]; rfl)
    · exact htake i ▸ hfirst (i + 1) (Nat.succ_lt_succ hi) hq
  · rintro ⟨hnot, hquote, hfree, hfirst⟩
    refine ⟨hquote, (htake n).symm ▸ hfree, fun i hi hq => ?_⟩
    cases i with
    | zero =>
      by_contra hescapes
      exact hnot ⟨by simpa using hq, by simpa using hescapes⟩
    | succ i => exact (htake i).symm ▸ hfirst i (Nat.lt_of_succ_lt_succ hi) hq

end Json

/-! ## The reader of selectors -/

/-- What the flag stands for: the next character is escaped by the text behind. -/
theorem closingQuote_cons (before : List Char) (c : Char) (r : List Char) :
    closingQuote? (decide (Escapes before)) (c :: r) =
      if c = '"' ∧ ¬ Escapes before then some 0
      else (closingQuote? (decide (Escapes (before ++ [c]))) r).map (· + 1) := by
  rw [closingQuote?]
  by_cases hescapes : Escapes before
  · simp [hescapes, escapes_append_singleton]
  · by_cases hslash : c = '\\'
    · simp [hescapes, hslash, escapes_append_singleton]
    · simp [hescapes, hslash, escapes_append_singleton]

/-- The closing quote is the first quote that is not escaped. -/
theorem closingQuote_eq_some_iff {before cs : List Char} {n : Nat} :
    closingQuote? (decide (Escapes before)) cs = some n ↔ ClosesAt before cs n := by
  induction cs generalizing before n with
  | nil =>
    constructor
    · intro h
      cases h
    · rintro ⟨hquote, -, -⟩
      cases hquote
  | cons c r ih =>
    rw [closingQuote_cons]
    cases n with
    | zero =>
      rw [closesAt_zero_iff]
      split
      · case isTrue h => simp [h]
      · case isFalse h => simp [h]
    | succ n =>
      rw [closesAt_succ_iff, ← ih]
      split
      · case isTrue h => simp [h]
      · case isFalse h => simp [h]

/-! ## The reader of documents -/

/-- The cursor passes a string up to the quote that the reader of selectors finds, if there is one. -/
theorem passString_eq (a s : List Char) : ∀ cs : List Char, (behind a s).passString cs =
    (closingQuote? false cs).elim (.error (.misfit .openString)) fun n =>
      .ok (behind (a ++ cs.take (n + 1)) (cs.drop (n + 1)))
  | [] => rfl
  -- A backslash takes the character behind it along, so the length is what decreases.
  | c :: r => by
    by_cases hquote : c = '"'
    · subst hquote
      rw [Cursor.passString.eq_def]
      simp [closingQuote?, pass_behind]
    by_cases hslash : c = '\\'
    · subst hslash
      cases r with
      | nil => rfl
      | cons e r =>
        rw [passString_escape, passString_eq (a ++ ['\\', e]) r r, closingQuote_escape]
        cases closingQuote? false r <;> simp
    · rw [passString_plain hquote hslash, passString_eq (a ++ [c]) r r, closingQuote_plain hquote hslash]
      cases closingQuote? false r <;> simp
termination_by cs => cs.length

/-! ## Byte by byte -/

/-- The bytes of a text in UTF-8. -/
def utf8 (cs : List Char) : List UInt8 :=
  cs.flatMap String.utf8EncodeChar

/-- How many bytes lie in front of the closing quote, told by looking at one byte after the other. `escaped` tells
whether a backslash precedes the start. -/
def closingByte? (escaped : Bool) : List UInt8 → Option Nat
  | [] => none
  | b :: r =>
    if escaped then (closingByte? false r).map (· + 1)
    else if b = 0x5C then (closingByte? true r).map (· + 1)
    else if b = 0x22 then some 0
    else (closingByte? false r).map (· + 1)

/-- A character of ASCII is its own byte. -/
theorem utf8EncodeChar_ascii {c : Char} (h : c.toNat ≤ 127) :
    String.utf8EncodeChar c = [UInt8.ofNat c.toNat] := by
  simp [String.utf8EncodeChar, h]

/-- All bytes of a longer character are above those of ASCII. -/
theorem le_toNat_of_mem_utf8EncodeChar {c : Char} (h : 127 < c.toNat) {b : UInt8}
    (hb : b ∈ String.utf8EncodeChar c) : 128 ≤ b.toNat := by
  have hnot : ¬ c.val.toNat ≤ 127 := Nat.not_le_of_lt h
  simp only [String.utf8EncodeChar, hnot, if_false] at hb
  split at hb
  · simp only [List.mem_cons, List.not_mem_nil, or_false] at hb
    rcases hb with rfl | rfl <;> simp <;> omega
  split at hb
  · simp only [List.mem_cons, List.not_mem_nil, or_false] at hb
    rcases hb with rfl | rfl | rfl <;> simp <;> omega
  · simp only [List.mem_cons, List.not_mem_nil, or_false] at hb
    rcases hb with rfl | rfl | rfl | rfl <;> simp <;> omega

/-- Bytes above those of ASCII are passed; the first of them may be escaped. -/
theorem closingByte_append {bs : List UInt8} (hne : bs ≠ []) (hbs : ∀ b ∈ bs, 128 ≤ b.toNat) (escaped : Bool)
    (r : List UInt8) : closingByte? escaped (bs ++ r) = (closingByte? false r).map (· + bs.length) := by
  induction bs generalizing escaped with
  | nil => exact absurd rfl hne
  | cons b bs ih =>
    have hb : 128 ≤ b.toNat := hbs b List.mem_cons_self
    have hslash : b ≠ 0x5C := by rintro rfl; exact absurd hb (by decide)
    have hquote : b ≠ 0x22 := by rintro rfl; exact absurd hb (by decide)
    -- Behind the first byte nothing is escaped any more.
    have hrest : closingByte? false (bs ++ r) = (closingByte? false r).map (· + bs.length) := by
      cases bs with
      | nil => simp
      | cons d bs => exact ih (List.cons_ne_nil d bs) (fun x hx => hbs x (List.mem_cons_of_mem b hx)) false
    cases escaped <;> simp [closingByte?, hslash, hquote, hrest, Function.comp_def, Nat.add_assoc]

theorem ofNat_eq_iff {c d : Char} (hc : c.toNat ≤ 127) (hd : d.toNat ≤ 127) :
    UInt8.ofNat c.toNat = UInt8.ofNat d.toNat ↔ c = d := by
  constructor
  · intro h
    have hnat := congrArg UInt8.toNat h
    simp only [UInt8.toNat_ofNat'] at hnat
    exact Char.toNat_inj.mp (by omega)
  · rintro rfl
    rfl

/-- The bytes of a character are passed like the character. -/
theorem closingByte_utf8EncodeChar (escaped : Bool) (c : Char) (r : List UInt8) :
    closingByte? escaped (String.utf8EncodeChar c ++ r) =
      if escaped then (closingByte? false r).map (· + c.utf8Size)
      else if c = '\\' then (closingByte? true r).map (· + c.utf8Size)
      else if c = '"' then some 0
      else (closingByte? false r).map (· + c.utf8Size) := by
  rcases Nat.lt_or_ge 127 c.toNat with hlong | hascii
  · have hne : String.utf8EncodeChar c ≠ [] := by
      intro h
      have hlength := String.length_utf8EncodeChar c
      rw [h] at hlength
      exact absurd hlength.symm (Nat.ne_of_gt c.utf8Size_pos)
    have hslash : c ≠ '\\' := by rintro rfl; exact absurd hlong (by decide)
    have hquote : c ≠ '"' := by rintro rfl; exact absurd hlong (by decide)
    rw [closingByte_append hne (fun b hb => le_toNat_of_mem_utf8EncodeChar hlong hb), String.length_utf8EncodeChar,
      if_neg hslash, if_neg hquote, ite_self]
  · have hbyte := utf8EncodeChar_ascii hascii
    have hone : c.utf8Size = 1 := by rw [← String.length_utf8EncodeChar, hbyte]; rfl
    have hslash : UInt8.ofNat c.toNat = 0x5C ↔ c = '\\' := ofNat_eq_iff (d := '\\') hascii (by decide)
    have hquote : UInt8.ofNat c.toNat = 0x22 ↔ c = '"' := ofNat_eq_iff (d := '"') hascii (by decide)
    rw [hbyte, List.singleton_append, closingByte?, hone]
    simp only [hslash, hquote]

/-- Byte by byte the same quote is found as character by character. -/
theorem closingByte_utf8 (escaped : Bool) (cs : List Char) :
    closingByte? escaped (utf8 cs) = (closingQuote? escaped cs).map fun n => byteSize (cs.take n) := by
  induction cs generalizing escaped with
  | nil => rfl
  | cons c r ih =>
    have hcons : utf8 (c :: r) = String.utf8EncodeChar c ++ utf8 r := rfl
    have hpassed : ∀ o : Option Nat, (o.map fun n => byteSize (r.take n)).map (· + c.utf8Size) =
        (o.map (· + 1)).map fun n => byteSize ((c :: r).take n) := by
      intro o
      cases o <;> simp [byteSize, Nat.add_comm]
    rw [hcons, closingByte_utf8EncodeChar, closingQuote?, ih, ih, hpassed, hpassed]
    split
    · rfl
    split
    · rfl
    split
    · rfl
    · rfl

/-! ## Whole strings -/

/-- A string of the grammar ends at the same place for every reader, whatever stands behind it: the cursor stops right
behind it, the selector finds its closing quote, character by character or byte by byte, and both have exactly the
string decoded. In any text the closing quote is the first one that is not escaped; if there is none, no string of the
grammar starts the text. -/
theorem string_ends_agree :
    (∀ (ps : List Piece) (a t : List Char),
      let w := quotedText ps
      ((behind a (w ++ t)).expect '"' >>= fun k => k.passString k.rest) = .ok (behind (a ++ w) t) ∧
      (behind a (w ++ t)).between (behind (a ++ w) t) = w ∧
      Reader.string (behind a (w ++ t)) = outcome ((decode w).map String.ofList) (behind (a ++ w) t) ∧
      closingQuote? false (w ++ t).tail = some (insideText ps).length ∧
      closingByte? false (utf8 (w ++ t).tail) = some (byteSize (insideText ps)) ∧
      (w ++ t).take ((insideText ps).length + 2) = w ∧
      quoted (w ++ t) =
        match decode w with
        | .error f => .error (.invalidKey w f)
        | .ok key =>
          match t with
          | ']' :: r => .ok (.key (String.ofList key), r)
          | _ => .error .expectedBracket) ∧
    ∀ cs : List Char,
      (∀ n, closingQuote? false cs = some n ↔ ClosesAt [] cs n) ∧
      (closingQuote? false cs = none → ∀ ps t, '"' :: cs ≠ quotedText ps ++ t) ∧
      (∀ a s, (behind a s).passString cs =
        (closingQuote? false cs).elim (.error (.misfit .openString)) fun n =>
          .ok (behind (a ++ cs.take (n + 1)) (cs.drop (n + 1)))) ∧
      closingByte? false (utf8 cs) = (closingQuote? false cs).map fun n => byteSize (cs.take n) := by
  refine ⟨fun ps a t => ?_, fun cs => ⟨fun n => ?_, fun hnone ps t htext => ?_, fun a s => passString_eq a s cs,
    closingByte_utf8 false cs⟩⟩
  · have htail : (quotedText ps ++ t).tail = insideText ps ++ '"' :: t := by simp [quotedText]
    have hquote := closingQuote_append (enclosed_inside ps) t
    have hlength : (insideText ps).length + 2 = (quotedText ps).length := by simp [quotedText]
    refine ⟨?_, between_behind, string_behind ps, ?_, ?_, ?_, quoted_append ps t⟩
    · have hcons : quotedText ps ++ t = '"' :: (insideText ps ++ '"' :: t) := by simp [quotedText]
      have hafter : a ++ ['"'] ++ (insideText ps ++ ['"']) = a ++ quotedText ps := by simp [quotedText]
      rw [hcons, expect_behind]
      exact (passString_behind (enclosed_inside ps)).trans (by rw [hafter])
    · rw [htail, hquote]
    · rw [htail, closingByte_utf8, hquote, Option.map_some, List.take_left]
    · rw [hlength, List.take_left]
  · have hclose : closingQuote? (decide (Escapes [])) cs = some n ↔ ClosesAt [] cs n := closingQuote_eq_some_iff
    rwa [decide_eq_false not_escapes_nil] at hclose
  · have hcs : cs = insideText ps ++ '"' :: t := by simpa [quotedText] using htext
    rw [hcs, closingQuote_append (enclosed_inside ps)] at hnone
    cases hnone

end DocLint
