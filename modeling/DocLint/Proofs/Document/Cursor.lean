import DocLint.Document.Reader
import DocLint.Proofs.Json.Token
import DocLint.Proofs.Text.Place

/-!
# Proofs: what a cursor knows

Whatever a cursor keeps is determined by the text behind it and the text in front of it. So each move of
the cursor is told by what it adds to the text behind, and its line and column are always the place
right after that text.

At a bracket the reader turns to the items or the entries behind it, in front of which white space does
not matter.
-/

namespace DocLint.Cursor

open DocLint.Text DocLint.Json

/-- The cursor between the text it has passed and the text that is left. -/
def behind (before rest : List Char) : Cursor where
  rest := rest
  offset := before.length
  line := (place before).1
  column := (place before).2
  lastLine := (place before.dropLast).1
  lastColumn := (place before.dropLast).2

variable {a b r s : List Char}

theorem start_eq_behind (cs : List Char) : start cs = behind [] cs := by
  simp [start, behind, place_nil]

theorem pass_behind (c : Char) : (behind a s).pass c r = behind (a ++ [c]) r := by
  by_cases h : c = '\n'
  · subst h
    simp [pass, behind, place_newline]
  · simp [pass, behind, h, place_append_singleton h]

theorem passWhile_behind {p : Char → Bool} (hb : ∀ c ∈ b, p c = true) (hr : Stops p r) :
    (behind a s).passWhile p (b ++ r) = behind (a ++ b) r := by
  induction b generalizing a s with
  | nil =>
    cases r with
    | nil => simp [passWhile, behind]
    | cons c r =>
      have hc : p c = false := stops_cons.mp hr
      simp [passWhile, behind, hc]
  | cons c b ih =>
    have hc : p c = true := hb c (by simp)
    have hrest := ih (a := a ++ [c]) (s := b ++ r) fun d hd => hb d (List.mem_cons_of_mem c hd)
    simp [passWhile, hc, pass_behind, hrest]

theorem skipSpace_behind (g : Gap) (hr : Stops isSpace r) :
    (behind a (g.chars ++ r)).skipSpace = behind (a ++ g.chars) r :=
  passWhile_behind g.blank hr

theorem skipSpace_skipSpace_behind (cs : List Char) :
    (behind a cs).skipSpace.skipSpace = (behind a cs).skipSpace := by
  obtain ⟨g, hg, hstops⟩ := exists_gap cs
  have hskip := skipSpace_behind (a := a) g hstops
  have hagain := skipSpace_behind (a := a ++ g.chars) Gap.none hstops
  rw [← hg] at hskip
  rw [hskip]
  simpa [Gap.none] using hagain

theorem rest_skipSpace_behind (cs : List Char) : (behind a cs).skipSpace.rest = Json.skipSpace cs := by
  obtain ⟨g, hg, hstops⟩ := exists_gap cs
  have hskip := skipSpace_behind (a := a) g hstops
  rw [← hg] at hskip
  rw [hskip]
  rfl

theorem passLiteral_behind (hb : ∀ c ∈ b, endsLiteral c = false) (hr : Stops (fun c => !endsLiteral c) r) :
    (behind a (b ++ r)).passLiteral = behind (a ++ b) r :=
  passWhile_behind (fun c hc => by simp [hb c hc]) hr

theorem expect_behind (c : Char) : (behind a (c :: r)).expect c = .ok (behind (a ++ [c]) r) := by
  have hrest : (behind a (c :: r)).rest = c :: r := rfl
  simp [expect, hrest, pass_behind]

theorem spanFrom_behind : (behind a r).spanFrom (behind (a ++ b) s) = stretch a b := rfl

theorem between_behind : (behind a (b ++ r)).between (behind (a ++ b) s) = b := by
  simp [between, behind]

/-! ## Strings -/

theorem passString_plain {c : Char} (hq : c ≠ '"') (hb : c ≠ '\\') :
    (behind a s).passString (c :: r) = (behind (a ++ [c]) r).passString r := by
  rw [passString.eq_def]
  simp [hq, hb, pass_behind]

theorem passString_escape (c : Char) :
    (behind a s).passString ('\\' :: c :: r) = (behind (a ++ ['\\', c]) r).passString r := by
  have hstep : (behind a s).passString ('\\' :: c :: r) =
      (((behind a s).pass '\\' (c :: r)).pass c r).passString r := rfl
  rw [hstep, pass_behind, pass_behind, List.append_assoc, List.singleton_append]

/-- What stands inside a string is passed up to the quote that closes it. -/
theorem passString_behind (h : Enclosed b) :
    (behind a s).passString (b ++ '"' :: r) = .ok (behind (a ++ (b ++ ['"'])) r) := by
  induction h generalizing a s with
  | nil =>
    rw [passString.eq_def]
    simp [pass_behind]
  | plain hq hb _ ih =>
    rw [List.cons_append, passString_plain hq hb, ih, List.append_assoc]
    rfl
  | escape _ ih =>
    rw [List.cons_append, List.cons_append, passString_escape, ih, List.append_assoc]
    rfl

end DocLint.Cursor

namespace DocLint.Reader

open DocLint.Json Cursor

/-! ## Lists and objects -/

section Brackets

variable (fuel : Nat) {k : Cursor} {a r s : List Char}

theorem value_emptyList (h : k.rest = '[' :: s) (hin : (k.pass '[' s).skipSpace = behind a (']' :: r)) :
    value (fuel + 1) k =
      .ok (.sequence Path.root (k.spanFrom (behind (a ++ [']']) r)) [], behind (a ++ [']']) r) := by
  have hrest : (behind a (']' :: r)).rest = ']' :: r := rfl
  rw [value.eq_def]
  simp [h, hin, hrest, pass_behind, pure, Except.pure]

theorem value_list {c : Char} {t : List Char} (h : k.rest = '[' :: s)
    (hin : (k.pass '[' s).skipSpace.rest = c :: t) (hc : c ≠ ']') :
    value (fuel + 1) k = (items fuel (k.pass '[' s).skipSpace).map fun p =>
      (.sequence Path.root (k.spanFrom p.2) p.1, p.2) := by
  rw [value.eq_def]
  simp only [h, hin]
  rw [if_neg (by decide), if_pos trivial]
  split
  · case h_1 heq =>
    cases heq
    exact absurd rfl hc
  · cases items fuel (k.pass '[' s).skipSpace <;> rfl

theorem value_emptyObject (h : k.rest = '{' :: s) (hin : (k.pass '{' s).skipSpace = behind a ('}' :: r)) :
    value (fuel + 1) k =
      .ok (.mapping Path.root (k.spanFrom (behind (a ++ ['}']) r)) [], behind (a ++ ['}']) r) := by
  have hrest : (behind a ('}' :: r)).rest = '}' :: r := rfl
  rw [value.eq_def]
  simp [h, hin, hrest, pass_behind, pure, Except.pure]

theorem value_object {c : Char} {t : List Char} (h : k.rest = '{' :: s)
    (hin : (k.pass '{' s).skipSpace.rest = c :: t) (hc : c ≠ '}') :
    value (fuel + 1) k = (entries fuel (k.pass '{' s).skipSpace).map fun p =>
      (.mapping Path.root (k.spanFrom p.2) p.1, p.2) := by
  rw [value.eq_def]
  simp only [h, hin]
  rw [if_pos trivial]
  split
  · case h_1 heq =>
    cases heq
    exact absurd rfl hc
  · cases entries fuel (k.pass '{' s).skipSpace <;> rfl

end Brackets

/-! ## White space in front of items and entries -/

theorem items_skipSpace {fuel : Nat} {a : List Char} (cs : List Char) :
    items fuel (behind a cs).skipSpace = items fuel (behind a cs) := by
  cases fuel with
  | zero => rfl
  | succ fuel =>
    rw [items.eq_def, items.eq_def (fuel + 1) (behind a cs)]
    simp only [skipSpace_skipSpace_behind]

theorem entries_skipSpace {fuel : Nat} {a : List Char} (cs : List Char) :
    entries fuel (behind a cs).skipSpace = entries fuel (behind a cs) := by
  cases fuel with
  | zero => rfl
  | succ fuel =>
    rw [entries.eq_def, entries.eq_def (fuel + 1) (behind a cs)]
    simp only [skipSpace_skipSpace_behind]

end DocLint.Reader
