import DocLint.Proofs.Failure
import DocLint.Proofs.Json.Token

/-!
# Proofs: the strings that have a value

A literal of the grammar is decoded unless one of its numeric escapes is half of a surrogate pair whose
other half does not stand next to it. This is the only way for a checked string to be refused, and nothing but
literals of the grammar is decoded (`exists_pieces_of_decode`).
-/

namespace DocLint.Json

open DocLint.Text

/-- The number of a numeric escape. -/
def Piece.number? : Piece → Option Nat
  | .code a b c d _ => quad? a b c d
  | _ => none

/-- A numeric escape for a high surrogate. -/
def Piece.High (p : Piece) : Prop :=
  ∃ n, p.number? = some n ∧ isHighSurrogate n = true

/-- A numeric escape for a low surrogate. -/
def Piece.Low (p : Piece) : Prop :=
  ∃ n, p.number? = some n ∧ isLowSurrogate n = true

/-- Every numeric escape is no surrogate, or a high and a low one stand next to each other as a pair. -/
inductive Paired : List Piece → Prop where
  /-- Nothing is left. -/
  | nil : Paired []
  /-- A piece that is no surrogate. -/
  | single {p : Piece} {ps : List Piece} (high : ¬ p.High) (low : ¬ p.Low) (rest : Paired ps) :
      Paired (p :: ps)
  /-- A surrogate pair. -/
  | pair {p q : Piece} {ps : List Piece} (high : p.High) (low : q.Low) (rest : Paired ps) :
      Paired (p :: q :: ps)

theorem Piece.not_low_of_high {p : Piece} (h : p.High) : ¬ p.Low := by
  rintro ⟨m, hm, hlow⟩
  obtain ⟨n, hn, hhigh⟩ := h
  cases hm.symm.trans hn
  simp only [isHighSurrogate, isLowSurrogate, Bool.and_eq_true, decide_eq_true_eq] at hhigh hlow
  omega

/-- A piece that is no numeric escape is no surrogate. -/
theorem Paired.cons_of_number_eq_none {p : Piece} (hp : p.number? = none) {ps : List Piece} (h : Paired ps) :
    Paired (p :: ps) := by
  refine .single ?_ ?_ h
  · rintro ⟨n, hn, -⟩
    rw [hp] at hn
    cases hn
  · rintro ⟨n, hn, -⟩
    rw [hp] at hn
    cases hn

/-! ## One piece -/

theorem decodeInside_quote (r : List Char) : decodeInside ('"' :: r) = .ok ([], r) := by
  rw [decodeInside.eq_def]
  simp

/-- A piece that is no numeric escape stands for one character, whatever follows it. -/
theorem Piece.decodeInside_text {p : Piece} (hp : p.number? = none) :
    ∃ c, ∀ r, decodeInside (p.text ++ r) = (decodeInside r).map fun q => (c :: q.1, q.2) := by
  cases p with
  | plain c hc =>
    refine ⟨c, fun r => ?_⟩
    rw [Piece.text, List.singleton_append, decodeInside.eq_def]
    simp only [hc, if_false]
  | short e he =>
    obtain ⟨c, hc⟩ := Option.isSome_iff_exists.mp he
    refine ⟨c, fun r => ?_⟩
    rw [Piece.text, List.cons_append, List.singleton_append, decodeInside.eq_def]
    simp [Piece.short_ne_u he, hc]
  | code a b c d hq =>
    rw [show quad? a b c d = none from hp] at hq
    cases hq

theorem exists_of_lowSurrogate {r : List Char} {low : Nat} (h : lowSurrogate? r = some low) :
    ∃ a b c d s, r = '\\' :: 'u' :: a :: b :: c :: d :: s ∧ (quad? a b c d).isSome = true := by
  unfold lowSurrogate? at h
  split at h
  · exact ⟨_, _, _, _, _, rfl, by rw [(Option.filter_eq_some_iff.mp h).1]; rfl⟩
  · cases h

/-- A piece with a number is a numeric escape. -/
theorem Piece.exists_of_number {p : Piece} {n : Nat} (hp : p.number? = some n) :
    ∃ a b c d, p.text = ['\\', 'u', a, b, c, d] ∧ quad? a b c d = some n := by
  cases p with
  | plain c hc => cases hp
  | short e he => cases hp
  | code a b c d hq => exact ⟨a, b, c, d, rfl, hp⟩

/-- A numeric escape stands for its own character, or for a pair with the low surrogate behind it. -/
theorem Piece.decodeInside_code {p : Piece} {n : Nat} (hp : p.number? = some n) (r : List Char) :
    decodeInside (p.text ++ r) =
      if isLowSurrogate n then .error (.before .loneSurrogate r)
      else if isHighSurrogate n then
        (lowSurrogate? r).elim (.error (lowSurrogateHalt r)) fun low =>
          (decodeInside (r.drop 6)).map fun q => (surrogatePair n low :: q.1, q.2)
      else (decodeInside r).map fun q => (Char.ofNat n :: q.1, q.2) := by
  obtain ⟨a, b, c, d, htext, hn⟩ := Piece.exists_of_number hp
  simp only [htext, List.cons_append, List.nil_append]
  rw [decodeInside.eq_def]
  cases hlow : lowSurrogate? r with
  | none => simp [hn, hlow]
  | some low =>
    obtain ⟨a', b', c', d', s, rfl, -⟩ := exists_of_lowSurrogate hlow
    simp [hn, hlow]

theorem Piece.lowSurrogate_text {p : Piece} {low : Nat} (hp : p.number? = some low)
    (hlow : isLowSurrogate low = true) (r : List Char) : lowSurrogate? (p.text ++ r) = some low := by
  obtain ⟨a, b, c, d, htext, hn⟩ := Piece.exists_of_number hp
  simp [htext, lowSurrogate?, hn, hlow]

theorem Piece.drop_text {p : Piece} {n : Nat} (hp : p.number? = some n) (r : List Char) :
    (p.text ++ r).drop 6 = r := by
  obtain ⟨a, b, c, d, htext, -⟩ := Piece.exists_of_number hp
  simp [htext]

/-- In front of a closing quote, a low surrogate is found exactly where its escape stands. -/
theorem lowSurrogate_eq_some {ps : List Piece} {r : List Char} {low : Nat}
    (h : lowSurrogate? (insideText ps ++ '"' :: r) = some low) :
    ∃ q qs, ps = q :: qs ∧ q.Low := by
  cases ps with
  | nil => simp [insideText, lowSurrogate?] at h
  | cons q qs =>
    refine ⟨q, qs, rfl, ?_⟩
    rw [insideText_cons] at h
    cases q with
    | plain c hc => simp [Piece.text, lowSurrogate?, hc.2.1] at h
    | short c hc => simp [Piece.text, lowSurrogate?, Piece.short_ne_u hc] at h
    | code a b c d hq =>
      simp only [Piece.text, List.cons_append, List.nil_append, lowSurrogate?,
        Option.filter_eq_some_iff] at h
      exact ⟨low, h.1, h.2⟩

/-! ## Whole strings -/

/-- A string whose surrogates are paired is decoded, and to the same characters whatever follows it. -/
theorem Paired.decodeInside_eq_ok {ps : List Piece} (h : Paired ps) :
    ∃ cs, ∀ r, decodeInside (insideText ps ++ '"' :: r) = .ok (cs, r) := by
  induction h with
  | nil => exact ⟨[], decodeInside_quote⟩
  | @single p ps high low _ ih =>
    obtain ⟨cs, hcs⟩ := ih
    cases hp : p.number? with
    | none =>
      obtain ⟨c, hc⟩ := Piece.decodeInside_text hp
      exact ⟨c :: cs, fun r => by simp [insideText_cons, hc, hcs, Except.map]⟩
    | some n =>
      have hlow : isLowSurrogate n = false := Bool.eq_false_iff.mpr fun hl => low ⟨n, hp, hl⟩
      have hhigh : isHighSurrogate n = false := Bool.eq_false_iff.mpr fun hh => high ⟨n, hp, hh⟩
      exact ⟨Char.ofNat n :: cs, fun r => by
        simp [insideText_cons, Piece.decodeInside_code hp, hlow, hhigh, hcs, Except.map]⟩
  | @pair p q ps high low _ ih =>
    obtain ⟨cs, hcs⟩ := ih
    have hnot := Piece.not_low_of_high high
    obtain ⟨n, hn, hhigh⟩ := high
    obtain ⟨m, hm, hlow⟩ := low
    have hn' : isLowSurrogate n = false := Bool.eq_false_iff.mpr fun hl => hnot ⟨n, hn, hl⟩
    exact ⟨surrogatePair n m :: cs, fun r => by
      simp [insideText_cons, Piece.decodeInside_code hn, hn', hhigh, Piece.lowSurrogate_text hm hlow,
        Piece.drop_text hm, hcs, Except.map]⟩

theorem paired_of_decodeInside : ∀ (ps : List Piece) {r cs s : List Char},
    decodeInside (insideText ps ++ '"' :: r) = .ok (cs, s) → Paired ps
  | [], _, _, _, _ => .nil
  | p :: ps, r, cs, s, h => by
    rw [insideText_cons] at h
    cases hp : p.number? with
    | none =>
      obtain ⟨c, hc⟩ := Piece.decodeInside_text hp
      rw [hc] at h
      obtain ⟨⟨cs', s'⟩, hrest, -⟩ := map_eq_ok_iff.mp h
      exact (paired_of_decodeInside ps hrest).cons_of_number_eq_none hp
    | some n =>
      rw [Piece.decodeInside_code hp] at h
      cases hlow : isLowSurrogate n with
      | true => simp [hlow] at h
      | false =>
        cases hhigh : isHighSurrogate n with
        | false =>
          simp only [hlow, hhigh, Bool.false_eq_true, if_false] at h
          obtain ⟨⟨cs', s'⟩, hrest, -⟩ := map_eq_ok_iff.mp h
          refine .single ?_ ?_ (paired_of_decodeInside ps hrest)
          · rintro ⟨m, hm, hh⟩
            cases hm.symm.trans hp
            simp [hhigh] at hh
          · rintro ⟨m, hm, hl⟩
            cases hm.symm.trans hp
            simp [hlow] at hl
        | true =>
          -- The low half has to be the next piece, since the look ahead sees the text of the next piece first.
          cases hnext : lowSurrogate? (insideText ps ++ '"' :: r) with
          | none => simp [hlow, hhigh, hnext] at h
          | some m =>
            obtain ⟨q, qs, rfl, m', hm', hl⟩ := lowSurrogate_eq_some hnext
            simp only [hlow, hhigh, hnext, Bool.false_eq_true, if_false, if_true, Option.elim_some] at h
            rw [insideText_cons, Piece.drop_text hm'] at h
            obtain ⟨⟨cs', s'⟩, hrest, -⟩ := map_eq_ok_iff.mp h
            exact .pair ⟨n, hp, hhigh⟩ ⟨m', hm', hl⟩ (paired_of_decodeInside qs hrest)

/-- A literal of the grammar is decoded exactly if its surrogates are paired. -/
theorem exists_decode_iff (ps : List Piece) : (∃ cs, decode (quotedText ps) = .ok cs) ↔ Paired ps := by
  have hfront : decodeFront (quotedText ps) = decodeInside (insideText ps ++ ['"']) := by
    simp [quotedText, decodeFront]
  constructor
  · rintro ⟨cs, h⟩
    rw [decode, hfront] at h
    cases hd : decodeInside (insideText ps ++ ['"']) with
    | ok p => exact paired_of_decodeInside ps hd
    | error e => simp [hd] at h
  · intro h
    obtain ⟨cs, hcs⟩ := h.decodeInside_eq_ok
    exact ⟨cs, by simp [decode, hfront, hcs]⟩

/-- In front of any text, a literal stands for the characters it stands for alone. -/
theorem decodeInside_of_decode {ps : List Piece} {cs : List Char} (h : decode (quotedText ps) = .ok cs)
    (r : List Char) : decodeInside (insideText ps ++ '"' :: r) = .ok (cs, r) := by
  obtain ⟨cs', hcs⟩ := ((exists_decode_iff ps).mp ⟨cs, h⟩).decodeInside_eq_ok
  have halone : decode (quotedText ps) = .ok cs' := by simp [decode, decodeFront, quotedText, hcs]
  rw [hcs, Except.ok.inj (halone.symm.trans h)]

/-! ## What is decoded is a literal -/

/-- What follows a character that is decoded is decoded as well. -/
theorem exists_of_map_cons {x : Except Halt (List Char × List Char)} {c : Char} {out r : List Char}
    (h : x.map (fun p => (c :: p.1, p.2)) = .ok (out, r)) : ∃ out', x = .ok (out', r) := by
  obtain ⟨⟨out', r'⟩, hx, hpair⟩ := map_eq_ok_iff.mp h
  cases hpair
  exact ⟨out', hx⟩

/-- Only literals of the grammar are decoded. -/
theorem exists_inside_of_decodeInside {cs out r : List Char} (h : decodeInside cs = .ok (out, r)) :
    ∃ ps : List Piece, cs = insideText ps ++ '"' :: r := by
  fun_induction decodeInside cs generalizing out with
  | case1 => cases h
  | case2 =>
    cases h
    exact ⟨[], rfl⟩
  | case3 => cases h
  | case4 => cases h
  | case5 => cases h
  | case6 a b c d n hn _ _ low _ _ a' b' c' d' r' _ hlow ih =>
    obtain ⟨_, _, _, _, _, heq, hm⟩ := exists_of_lowSurrogate hlow
    simp only [List.cons.injEq] at heq
    obtain ⟨rfl, rfl, rfl, rfl, rfl, rfl, rfl⟩ := heq
    rw [hlow] at h
    obtain ⟨out', hrest⟩ := exists_of_map_cons h
    obtain ⟨ps, hps⟩ := ih hrest
    exact ⟨.code a b c d (by rw [hn]; rfl) :: .code a' b' c' d' hm :: ps, by simp [insideText, Piece.text, hps]⟩
  | case7 a b c d r' n _ _ _ hnone =>
    split at h
    · exact absurd rfl (hnone _ _ _ _ _ _ _ _ ‹_›)
    · cases h
  | case8 a b c d r' n hn _ _ _ ih =>
    obtain ⟨out', hrest⟩ := exists_of_map_cons h
    obtain ⟨ps, hps⟩ := ih hrest
    exact ⟨.code a b c d (by rw [hn]; rfl) :: ps, by simp [insideText, Piece.text, hps]⟩
  | case9 => cases h
  | case10 e r' _ c he _ ih =>
    obtain ⟨out', hrest⟩ := exists_of_map_cons h
    obtain ⟨ps, hps⟩ := ih hrest
    exact ⟨.short e (by rw [he]; rfl) :: ps, by simp [insideText, Piece.text, hps]⟩
  | case11 => cases h
  | case12 => cases h
  | case13 c r' hquote hslash hcontrol ih =>
    obtain ⟨out', hrest⟩ := exists_of_map_cons h
    obtain ⟨ps, hps⟩ := ih hrest
    exact ⟨.plain c ⟨hquote, hslash, hcontrol⟩ :: ps, by simp [insideText, Piece.text, hps]⟩

theorem exists_pieces_of_decode {literal key : List Char} (h : decode literal = .ok key) :
    ∃ ps : List Piece, literal = quotedText ps := by
  unfold decode at h
  split at h
  · case h_1 cs hfront =>
    cases literal with
    | nil => cases hfront
    | cons x r =>
      simp only [decodeFront] at hfront
      split at hfront
      · case isTrue hx =>
        obtain ⟨ps, rfl⟩ := exists_inside_of_decodeInside hfront
        exact ⟨ps, by rw [hx, quotedText]⟩
      · cases hfront
  · cases h
  · cases h

end DocLint.Json
