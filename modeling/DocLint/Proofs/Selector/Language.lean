import DocLint.Proofs.Json.Quoted
import DocLint.Proofs.Text.Blank
import DocLint.Proofs.Text.Natural
import DocLint.Selector

/-!
# Proofs: the language of selectors

A grammar tells which texts are selectors and which steps they stand for, and `Selector::parse` accepts exactly its
language. `StepText cs s r` is one production: the text `cs` starts with the step `s` and goes on with `r`. What
follows belongs to the production, since a name after a dot goes on as long as it can.

The step read in front of a text is the step of the grammar (`step_eq_ok_iff`). Each step takes characters, so
the fuel suffices and the steps of the whole text are those of the grammar (`steps_eq_ok_iff`).
-/

namespace DocLint

open DocLint.Text DocLint.Json

namespace Selector

/-! ## The grammar -/

/-- The step that a name after a dot stands for. -/
inductive NameText : List Char → Step → Prop where
  /-- A star. -/
  | any : NameText ['*'] .any
  /-- Digits. -/
  | index {ds : List Char} {n : Nat} (digits : WordText ds n) : NameText ds (.index n)
  /-- Anything else. -/
  | key {name : List Char} (nonempty : name ≠ []) (noStar : name ≠ ['*']) (noDigits : ∃ c ∈ name, isDigit c = false) :
      NameText name (.key (String.ofList name))

/-- The step that a token between brackets stands for. -/
inductive TokenText : List Char → Step → Prop where
  /-- A star. -/
  | any : TokenText ['*'] .any
  /-- Digits. -/
  | index {ds : List Char} {n : Nat} (digits : WordText ds n) : TokenText ds (.index n)
  /-- Digits behind a plus sign. -/
  | signed {ds : List Char} {n : Nat} (digits : WordText ds n) : TokenText ('+' :: ds) (.index n)

/-- The text starts with a step and goes on with a rest. -/
inductive StepText : List Char → Step → List Char → Prop where
  /-- A dot and a name, which goes on up to the next dot or opening bracket. -/
  | dot {name r : List Char} {s : Step} (inside : ∀ c ∈ name, endsName c = false)
      (longest : Stops (fun c => !endsName c) r) (name_text : NameText name s) : StepText ('.' :: (name ++ r)) s r
  /-- A string between brackets. -/
  | quote {literal key r : List Char} (decodes : decode literal = .ok key) :
      StepText ('[' :: (literal ++ ']' :: r)) (.key (String.ofList key)) r
  /-- A token between brackets, with white space around it. -/
  | bracket {token t r : List Char} {s : Step} (inside : ∀ c ∈ token, c ≠ ']') (noQuote : token.head? ≠ some '"')
      (trimmed : Trimmed token t) (token_text : TokenText t s) : StepText ('[' :: (token ++ ']' :: r)) s r

/-- The text is a sequence of steps. -/
inductive StepsText : List Char → List Step → Prop where
  /-- There are none. -/
  | nil : StepsText [] []
  /-- A step and the rest. -/
  | cons {cs r : List Char} {s : Step} {ss : List Step} (first : StepText cs s r) (rest : StepsText r ss) :
      StepsText cs (s :: ss)

/-- The text without a dollar sign in front. -/
inductive Undollared : List Char → List Char → Prop where
  /-- There is none. -/
  | none {cs : List Char} (noDollar : cs.head? ≠ some '$') : Undollared cs cs
  /-- There is one, which is dropped. -/
  | one {cs : List Char} : Undollared ('$' :: cs) cs

/-- The text with a dot in front of a first name. -/
inductive Dotted : List Char → List Char → Prop where
  /-- There is no name. -/
  | nil : Dotted [] []
  /-- A dot or a bracket is there already. -/
  | there {c : Char} {r : List Char} (ends : endsName c = true) : Dotted (c :: r) (c :: r)
  /-- A name comes first. -/
  | name {c : Char} {r : List Char} (goes : endsName c = false) : Dotted (c :: r) ('.' :: c :: r)

/-- The text is a selector of the given steps: with the white space at its ends and one dollar sign dropped, and
a dot put in front of a first name, it is the sequence of the steps. -/
def SelectorText (cs : List Char) (ss : List Step) : Prop :=
  ∃ t u b, Trimmed cs t ∧ Undollared t u ∧ Dotted u b ∧ StepsText b ss

/-! ## Names and tokens -/

theorem dotted_eq_ok_iff {name : List Char} {s : Step} : dotted name = .ok s ↔ NameText name s := by
  constructor
  · intro h
    unfold dotted at h
    split at h
    · cases h
    · case isFalse hne =>
      have hnonempty : name ≠ [] := fun heq => hne (List.isEmpty_iff.mpr heq)
      split at h
      · case isTrue hstar =>
        cases h
        exact hstar ▸ .any
      · case isFalse hstar =>
        split at h
        · split at h
          · case h_1 n hn =>
            cases h
            exact .index (word_eq_some_iff.mp hn)
          · cases h
        · case isFalse hdigits =>
          cases h
          obtain ⟨c, hc, hdigit⟩ := List.all_eq_false.mp (Bool.eq_false_iff.mpr hdigits)
          exact .key hnonempty hstar ⟨c, hc, Bool.eq_false_iff.mpr hdigit⟩
  · intro h
    cases h with
    | any => rfl
    | index digits =>
      have hstar : name ≠ ['*'] := by
        rintro rfl
        exact absurd (digits.digits '*' List.mem_cons_self) (by decide)
      have hall : name.all isDigit = true := List.all_eq_true.mpr digits.digits
      simp [dotted, digits.nonempty, hstar, hall, word_eq_some_iff.mpr digits]
    | key nonempty noStar noDigits =>
      obtain ⟨c, hc, hdigit⟩ := noDigits
      have hall : ¬ name.all isDigit = true := by
        intro hall
        rw [List.all_eq_true.mp hall c hc] at hdigit
        cases hdigit
      simp [dotted, nonempty, noStar, hall]

theorem bracketed_eq_ok_iff {t : List Char} {s : Step} : bracketed t = .ok s ↔ TokenText t s := by
  constructor
  · intro h
    unfold bracketed at h
    split at h
    · case isTrue hstar =>
      cases h
      exact hstar ▸ .any
    · split at h
      · case h_1 n hn =>
        cases h
        obtain ⟨ds, rfl | rfl, hds⟩ := signedWord_eq_some_iff.mp hn
        · exact .index hds
        · exact .signed hds
      · cases h
  · intro h
    cases h with
    | any => rfl
    | index digits =>
      have hstar : t ≠ ['*'] := by
        rintro rfl
        exact absurd (digits.digits '*' List.mem_cons_self) (by decide)
      have hword := signedWord_eq_some_iff.mpr ⟨t, .inl rfl, digits⟩
      simp [bracketed, hstar, hword]
    | @signed ds n digits =>
      have hword := signedWord_eq_some_iff.mpr ⟨ds, .inr rfl, digits⟩
      simp [bracketed, hword]

theorem closingQuote_plain {c : Char} (hq : c ≠ '"') (hb : c ≠ '\\') (r : List Char) :
    closingQuote? false (c :: r) = (closingQuote? false r).map (· + 1) := by
  simp [closingQuote?, hq, hb]

theorem closingQuote_escape (c : Char) (r : List Char) :
    closingQuote? false ('\\' :: c :: r) = (closingQuote? false r).map (· + 2) := by
  simp [closingQuote?, Function.comp_def]

/-- The closing quote of a string is found right behind its inside. -/
theorem closingQuote_append {b : List Char} (h : Enclosed b) (r : List Char) :
    closingQuote? false (b ++ '"' :: r) = some b.length := by
  induction h with
  | nil => rfl
  | plain hq hb _ ih => rw [List.cons_append, closingQuote_plain hq hb, ih, Option.map_some, List.length_cons]
  | escape _ ih =>
    rw [List.cons_append, List.cons_append, closingQuote_escape, ih, Option.map_some, List.length_cons,
      List.length_cons]

/-- In front of any text the reader of selectors has exactly the string decoded, and then looks for the bracket. -/
theorem quoted_append (ps : List Piece) (t : List Char) :
    quoted (quotedText ps ++ t) =
      match decode (quotedText ps) with
      | .error f => .error (.invalidKey (quotedText ps) f)
      | .ok key =>
        match t with
        | ']' :: r => .ok (.key (String.ofList key), r)
        | _ => .error .expectedBracket := by
  have hquote : closingQuote? false (quotedText ps ++ t).tail = some (insideText ps).length := by
    simpa [quotedText] using closingQuote_append (enclosed_inside ps) t
  have hlength : (insideText ps).length + 2 = (quotedText ps).length := by simp [quotedText]
  have htake : (quotedText ps ++ t).take (quotedText ps).length = quotedText ps := List.take_left
  have hdrop : (quotedText ps ++ t).drop (quotedText ps).length = t := List.drop_left
  have hread := quoted.eq_def (quotedText ps ++ t)
  simp only [hquote, hlength, htake, hdrop] at hread
  exact hread

/-- A literal between brackets is read as the key it is decoded to. -/
theorem quoted_literal {literal key : List Char} (h : decode literal = .ok key) (r : List Char) :
    quoted (literal ++ ']' :: r) = .ok (.key (String.ofList key), r) := by
  obtain ⟨ps, rfl⟩ := exists_pieces_of_decode h
  simp only [quoted_append, h]

theorem exists_literal_of_quoted {cs r : List Char} {s : Step} (h : quoted cs = .ok (s, r)) :
    ∃ literal key, decode literal = .ok key ∧ cs = literal ++ ']' :: r ∧ s = .key (String.ofList key) := by
  unfold quoted at h
  split at h
  · cases h
  · case h_2 n _ =>
    dsimp only at h
    split at h
    · cases h
    · case h_2 key hkey =>
      split at h
      · case h_1 r' hdrop =>
        cases h
        refine ⟨cs.take (n + 2), key, hkey, ?_, rfl⟩
        rw [← hdrop, List.take_append_drop]
      · cases h

/-! ## One step -/

theorem step_dot {name r : List Char} (hname : ∀ c ∈ name, endsName c = false)
    (hr : Stops (fun c => !endsName c) r) : step ('.' :: (name ++ r)) = (dotted name).map (·, r) := by
  have hgoes : ∀ c ∈ name, (!endsName c) = true := fun c hc => by rw [hname c hc, Bool.not_false]
  have htake := takeWhile_append_of_stops hgoes hr
  have hdrop := dropWhile_append_of_stops hgoes hr
  rw [step, if_pos rfl, htake, hdrop]

theorem step_quote (r : List Char) : step ('[' :: '"' :: r) = quoted ('"' :: r) := by
  rw [step, if_neg (by decide), if_pos rfl]
  exact if_pos rfl

theorem step_bracket {token r : List Char} (htoken : ∀ c ∈ token, c ≠ ']')
    (hquote : (token ++ ']' :: r).head? ≠ some '"') :
    step ('[' :: (token ++ ']' :: r)) = (bracketed (trimChars token)).map (·, r) := by
  have hgoes : ∀ c ∈ token, decide (c ≠ ']') = true := fun c hc => decide_eq_true (htoken c hc)
  have hstops : Stops (fun c => decide (c ≠ ']')) (']' :: r) := by simp
  have htake := takeWhile_append_of_stops hgoes hstops
  have hdrop := dropWhile_append_of_stops hgoes hstops
  rw [step, if_neg (by decide), if_pos rfl, if_neg hquote, hdrop, htake]

/-- A token goes on up to its closing bracket. -/
theorem eq_append_of_dropWhile {cs r : List Char} {c : Char} (h : cs.dropWhile (· ≠ ']') = c :: r) :
    cs = cs.takeWhile (· ≠ ']') ++ ']' :: r := by
  have hclose : c = ']' := by
    have hstops := stops_dropWhile (fun c => decide (c ≠ ']')) cs
    rw [h, stops_cons] at hstops
    simpa using hstops
  rw [hclose] at h
  rw [← h, List.takeWhile_append_dropWhile]

/-- What is read in front of a text is a step of the grammar. -/
theorem stepText_of_step {cs r : List Char} {s : Step} (h : step cs = .ok (s, r)) : StepText cs s r := by
  cases cs with
  | nil => cases h
  | cons c cs =>
    rw [step] at h
    split at h
    · case isTrue hdot =>
      obtain ⟨s', hs, hpair⟩ := map_eq_ok_iff.mp h
      cases hpair
      have hinside : ∀ d ∈ cs.takeWhile (!endsName ·), endsName d = false := fun d hd => by
        simpa using List.all_eq_true.mp List.all_takeWhile d hd
      have hstep := StepText.dot hinside (stops_dropWhile _ cs) (dotted_eq_ok_iff.mp hs)
      rw [List.takeWhile_append_dropWhile] at hstep
      exact hdot ▸ hstep
    split at h
    · case isTrue hbracket =>
      subst hbracket
      split at h
      · obtain ⟨literal, key, hkey, rfl, rfl⟩ := exists_literal_of_quoted h
        exact .quote hkey
      · case isFalse hquote =>
        split at h
        · cases h
        · case h_2 d r' hdrop =>
          obtain ⟨s', hs, hpair⟩ := map_eq_ok_iff.mp h
          cases hpair
          have hcs := eq_append_of_dropWhile hdrop
          have hinside : ∀ e ∈ cs.takeWhile (· ≠ ']'), e ≠ ']' := fun e he =>
            of_decide_eq_true (List.all_eq_true.mp List.all_takeWhile e he)
          have hhead : (cs.takeWhile (· ≠ ']')).head? ≠ some '"' := by
            intro heq
            apply hquote
            rw [hcs, List.head?_append, heq]
            rfl
          have hstep := StepText.bracket (r := r) hinside hhead (trimmed_trimChars _) (bracketed_eq_ok_iff.mp hs)
          rw [← hcs] at hstep
          exact hstep
    · cases h

/-- Reading a step in front of a text gives exactly the step of the grammar. -/
theorem step_eq_ok_iff {cs r : List Char} {s : Step} : step cs = .ok (s, r) ↔ StepText cs s r := by
  constructor
  · exact stepText_of_step
  · intro h
    cases h with
    | dot inside longest name_text =>
      rw [step_dot inside longest, dotted_eq_ok_iff.mpr name_text]
      rfl
    | @quote literal key _ decodes =>
      have hkey := quoted_literal decodes r
      obtain ⟨ps, rfl⟩ := exists_pieces_of_decode decodes
      exact (step_quote _).trans hkey
    | @bracket token t _ _ inside noQuote trimmed token_text =>
      have hquote : (token ++ ']' :: r).head? ≠ some '"' := by
        rw [List.head?_append]
        cases token with
        | nil => simp
        | cons c token => exact noQuote
      rw [step_bracket inside hquote, trimChars_eq_of_trimmed trimmed, bracketed_eq_ok_iff.mpr token_text]
      rfl

theorem StepText.length_lt {cs r : List Char} {s : Step} (h : StepText cs s r) : r.length < cs.length := by
  cases h with
  | dot =>
    simp only [List.length_cons, List.length_append]
    omega
  | quote =>
    simp only [List.length_cons, List.length_append]
    omega
  | bracket =>
    simp only [List.length_cons, List.length_append]
    omega

/-! ## Whole texts -/

theorem steps_nil_iff {fuel : Nat} {ss : List Step} : steps? fuel [] = .ok ss ↔ StepsText [] ss := by
  have hread : steps? fuel [] = .ok [] := by cases fuel <;> rfl
  constructor
  · intro h
    cases hread.symm.trans h
    exact .nil
  · intro h
    cases h with
    | nil => exact hread
    | cons first _ => nomatch first

/-- Reading steps gives exactly the steps of the grammar. -/
theorem steps_eq_ok_iff {fuel : Nat} {cs : List Char} {ss : List Step} (h : cs.length ≤ fuel) :
    steps? fuel cs = .ok ss ↔ StepsText cs ss := by
  induction fuel generalizing cs ss with
  | zero =>
    obtain rfl : cs = [] := List.eq_nil_of_length_eq_zero (Nat.le_zero.mp h)
    exact steps_nil_iff
  | succ fuel ih =>
    cases cs with
    | nil => exact steps_nil_iff
    | cons c cs =>
      have hrest : ∀ {s r}, StepText (c :: cs) s r → r.length ≤ fuel := fun hstep =>
        Nat.le_of_lt_succ (Nat.lt_of_lt_of_le hstep.length_lt h)
      constructor
      · intro hread
        cases hstep : step (c :: cs) with
        | error e => simp [steps?, hstep] at hread
        | ok p =>
          obtain ⟨s, r⟩ := p
          simp only [steps?, hstep] at hread
          obtain ⟨ss', hss, rfl⟩ := map_eq_ok_iff.mp hread
          have hfirst := step_eq_ok_iff.mp hstep
          exact .cons hfirst ((ih (hrest hfirst)).mp hss)
      · intro hsteps
        cases hsteps with
        | cons first rest =>
          have hss := (ih (hrest first)).mpr rest
          simp [steps?, step_eq_ok_iff.mpr first, hss, Except.map]

/-- What trimming leaves is read without a dollar sign and with a dot in front of a first name. -/
theorem body_of_undollared {t u b : List Char} (hu : Undollared t u) (hb : Dotted u b) : body t = b := by
  cases hu with
  | none noDollar =>
    cases hb with
    | nil => rfl
    | there ends =>
      unfold body
      simp only [noDollar, if_false, ends, if_true]
    | name goes =>
      unfold body
      simp only [noDollar, if_false, goes, Bool.false_eq_true]
  | one =>
    cases hb with
    | nil => rfl
    | there ends =>
      unfold body
      simp only [List.head?_cons, if_true, List.tail_cons, ends]
    | name goes =>
      unfold body
      simp only [List.head?_cons, if_true, List.tail_cons, goes, Bool.false_eq_true, if_false]

theorem exists_undollared (t : List Char) : ∃ u, Undollared t u := by
  by_cases h : t.head? = some '$'
  · obtain ⟨u, rfl⟩ := List.head?_eq_some_iff.mp h
    exact ⟨u, .one⟩
  · exact ⟨t, .none h⟩

theorem exists_dotted (u : List Char) : ∃ b, Dotted u b := by
  cases u with
  | nil => exact ⟨[], .nil⟩
  | cons c r =>
    cases hc : endsName c with
    | true => exact ⟨c :: r, .there hc⟩
    | false => exact ⟨'.' :: c :: r, .name hc⟩

theorem body_eq_iff {t b : List Char} : body t = b ↔ ∃ u, Undollared t u ∧ Dotted u b := by
  constructor
  · rintro rfl
    obtain ⟨u, hu⟩ := exists_undollared t
    obtain ⟨b, hb⟩ := exists_dotted u
    exact ⟨u, hu, body_of_undollared hu hb ▸ hb⟩
  · rintro ⟨u, hu, hb⟩
    exact body_of_undollared hu hb

/-- The steps that are read from a text are those of the grammar. -/
theorem read_eq_ok_iff {source : String} {ss : List Step} :
    read source = .ok ⟨trim source, ss⟩ ↔ SelectorText source.toList ss := by
  have hsteps : steps? (body (trimChars source.toList)).length (body (trimChars source.toList)) = .ok ss ↔
      StepsText (body (trimChars source.toList)) ss := steps_eq_ok_iff (Nat.le_refl _)
  constructor
  · intro hread
    obtain ⟨ss', hss, hselector⟩ := map_eq_ok_iff.mp hread
    cases hselector
    obtain ⟨u, hu, hb⟩ := body_eq_iff.mp (rfl : body (trimChars source.toList) = body (trimChars source.toList))
    exact ⟨_, u, _, trimmed_trimChars source.toList, hu, hb, hsteps.mp hss⟩
  · rintro ⟨t, u, b, ht, hu, hb, hss⟩
    obtain rfl := trimChars_eq_of_trimmed ht
    obtain rfl := body_of_undollared hu hb
    exact map_eq_ok_iff.mpr ⟨ss, hsteps.mpr hss, rfl⟩

theorem text_of_read {source : String} {s : Selector} (h : read source = .ok s) : s.text = trim source := by
  obtain ⟨ss, -, rfl⟩ := map_eq_ok_iff.mp h
  rfl

theorem trim_trim (source : String) : trim (trim source) = trim source := by
  rw [trim, trim, String.toList_ofList, trimChars_trimChars]

/-- A text is read as a selector exactly if it is one by the grammar, and then as the selector of the steps that the
grammar gives and of the trimmed text, which is read as the same selector again. All other texts are refused. -/
theorem read_language (source : String) :
    (∀ s, read source = .ok s ↔ SelectorText source.toList s.steps ∧ Trimmed source.toList s.text.toList) ∧
    ((∃ e, read source = .error e) ↔ ∀ ss, ¬ SelectorText source.toList ss) ∧
    ∀ s, read source = .ok s → read s.text = .ok s := by
  refine ⟨fun s => ?_, ?_, fun s hs => ?_⟩
  · constructor
    · intro hs
      have htext := text_of_read hs
      refine ⟨read_eq_ok_iff.mp (htext ▸ hs), ?_⟩
      rw [htext, trim, String.toList_ofList]
      exact trimmed_trimChars source.toList
    · rintro ⟨hsteps, htrimmed⟩
      have htext : s.text = trim source := by
        rw [trim, trimChars_eq_of_trimmed htrimmed, String.ofList_toList]
      rw [read_eq_ok_iff.mpr hsteps, ← htext]
  · constructor
    · rintro ⟨e, he⟩ ss hss
      rw [read_eq_ok_iff.mpr hss] at he
      cases he
    · intro hnone
      cases hread : read source with
      | error e => exact ⟨e, rfl⟩
      | ok s =>
        have htext := text_of_read hread
        exact absurd (read_eq_ok_iff.mp (htext ▸ hread)) (hnone s.steps)
  · have htext := text_of_read hs
    unfold read at hs ⊢
    rw [htext, trim_trim, trim, String.toList_ofList, trimChars_trimChars]
    exact hs

end Selector

end DocLint
