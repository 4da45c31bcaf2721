import DocLint.Report.Text
import Mathlib.Algebra.GroupWithZero.Nat
import Mathlib.Algebra.Order.BigOperators.Group.List
import Mathlib.Algebra.Order.Group.Nat
import Mathlib.Data.List.Basic

/-!
# Proofs: texts of one line

A text is plain when no control character is in it. Whatever a document or a policy holds is plain once it is on
one line, and so is a number. Plain lines that are each ended by a line feed are told apart again by cutting the
text at its line breaks (`splitLines_joinLines`); lines that hold line feeds of their own are not.
-/

namespace DocLint.Text

open Report (joinLines)

/-! ## Plain texts -/

/-- There is no control character in the text. -/
def Plain (s : String) : Prop :=
  ∀ c ∈ s.toList, isControl c = false

instance (s : String) : Decidable (Plain s) :=
  List.decidableBAll (fun c => isControl c = false) s.toList

theorem plain_append_iff {s t : String} : Plain (s ++ t) ↔ Plain s ∧ Plain t := by
  simp only [Plain, String.toList_append, List.forall_mem_append]

theorem exists_digitChar_of_mem_toDigits {b : Nat} (hb : 1 < b) (n : Nat) {c : Char} (hc : c ∈ Nat.toDigits b n) :
    ∃ d < b, c = Nat.digitChar d := by
  induction n using Nat.strongRecOn with
  | ind n ih =>
    rw [Nat.toDigits_eq_if hb] at hc
    split at hc
    · case isTrue hlt =>
      rw [List.mem_singleton] at hc
      exact ⟨n, hlt, hc⟩
    · case isFalse hle =>
      have hdiv : n / b < n := Nat.div_lt_self (by omega) hb
      rcases List.mem_append.mp hc with hc | hc
      · exact ih (n / b) hdiv hc
      · rw [List.mem_singleton] at hc
        exact ⟨n % b, Nat.mod_lt n (by omega), hc⟩

/-- The digits of a number are plain, in decimal and in hexadecimal. -/
theorem isControl_of_mem_toDigits {b : Nat} (hb : 1 < b) (hle : b ≤ 16) (n : Nat) {c : Char}
    (hc : c ∈ Nat.toDigits b n) : isControl c = false := by
  obtain ⟨d, hd, rfl⟩ := exists_digitChar_of_mem_toDigits hb n hc
  have hdigits : ∀ d < 16, isControl (Nat.digitChar d) = false := by decide
  exact hdigits d (by omega)

theorem plain_ofNat (n : Nat) : Plain (ofNat n) := by
  intro c hc
  rw [ofNat, String.toList_ofList] at hc
  exact isControl_of_mem_toDigits (by decide) (by decide) n hc

theorem isControl_of_all {cs : List Char} (h : cs.all (fun c => !isControl c) = true) {c : Char} (hc : c ∈ cs) :
    isControl c = false := by
  simpa using List.all_eq_true.mp h c hc

/-- What is shown for a control character is plain. -/
theorem isControl_of_mem_showControl {c d : Char} (hd : d ∈ showControl c) : isControl d = false := by
  unfold showControl at hd
  split at hd
  · exact isControl_of_all (by decide) hd
  split at hd
  · exact isControl_of_all (by decide) hd
  split at hd
  · exact isControl_of_all (by decide) hd
  · have hsplit : d ∈ ['\\', 'u', '\x7b'] ++ (hex c.toNat ++ ['\x7d']) := hd
    rcases List.mem_append.mp hsplit with hd | hd
    · exact isControl_of_all (by decide) hd
    · rcases List.mem_append.mp hd with hd | hd
      · exact isControl_of_mem_toDigits (by decide) (by decide) c.toNat hd
      · exact isControl_of_all (by decide) hd

/-- A text is plain once it is on one line, whatever it held before. -/
theorem plain_oneLine (s : String) : Plain (oneLine s) := by
  intro d hd
  rw [oneLine, String.toList_ofList] at hd
  obtain ⟨c, -, hd⟩ := List.mem_flatMap.mp hd
  by_cases hc : isControl c = true
  · rw [if_pos hc] at hd
    exact isControl_of_mem_showControl hd
  · rw [if_neg hc, List.mem_singleton] at hd
    rw [hd]
    exact Bool.eq_false_iff.mpr hc

/-! ## Cutting a text at its line breaks -/

/-- A line without the carriage return in front of its line feed; the line is given backwards. -/
def dropReturn : List Char → List Char
  | '\r' :: line => line
  | line => line

/-- The lines of a text whose first line has begun with what is given backwards. -/
def splitFrom (line : List Char) : List Char → List (List Char)
  | [] => if line = [] then [] else [line.reverse]
  | c :: r => if c = '\n' then (dropReturn line).reverse :: splitFrom [] r else splitFrom (c :: line) r

/-- The lines of a text, without their line breaks. A line ends at a line feed, with a carriage return in front of it
or not, and the last one need not be ended. -/
def splitLines (s : String) : List String :=
  (splitFrom [] s.toList).map String.ofList

example : splitLines "a\r\n\nb\rc" = ["a", "", "b\rc"] := by decide

theorem splitFrom_append {l : List Char} (hl : '\n' ∉ l) (line r : List Char) :
    splitFrom line (l ++ '\n' :: r) = (dropReturn (l.reverse ++ line)).reverse :: splitFrom [] r := by
  induction l generalizing line with
  | nil => simp [splitFrom]
  | cons c l ih =>
    have hc : c ≠ '\n' := fun h => hl (h ▸ List.mem_cons_self)
    have hrest : '\n' ∉ l := fun h => hl (List.mem_cons_of_mem c h)
    rw [List.cons_append, splitFrom, if_neg hc, ih hrest, List.reverse_cons, List.append_assoc, List.singleton_append]

/-- Each line feed ends a line. -/
theorem length_splitFrom_append (line l r : List Char) :
    (splitFrom line (l ++ '\n' :: r)).length = l.count '\n' + 1 + (splitFrom [] r).length := by
  induction l generalizing line with
  | nil => simp [splitFrom, Nat.add_comm]
  | cons c l ih =>
    rw [List.cons_append, splitFrom]
    split
    · case isTrue hc =>
      rw [List.length_cons, ih, hc, List.count_cons_self]
      omega
    · case isFalse hc => rw [ih, List.count_cons_of_ne hc]

theorem dropReturn_eq_self_iff {l : List Char} : dropReturn l = l ↔ l.head? ≠ some '\r' := by
  unfold dropReturn
  split
  · case h_1 line => simp
  · case h_2 hreturn =>
    refine iff_of_true rfl fun hhead => ?_
    obtain ⟨line, hline⟩ := List.head?_eq_some_iff.mp hhead
    exact hreturn line hline

theorem Plain.not_mem {s : String} (h : Plain s) {c : Char} (hc : isControl c = true) : c ∉ s.toList := by
  intro hmem
  rw [h c hmem] at hc
  cases hc

theorem toList_joinLines_cons (l : String) (ls : List String) :
    (joinLines (l :: ls)).toList = l.toList ++ '\n' :: (joinLines ls).toList := by
  simp [joinLines]

theorem joinLines_append (ls ms : List String) : joinLines (ls ++ ms) = joinLines ls ++ joinLines ms := by
  rw [joinLines, List.map_append, String.join_append]
  rfl

theorem joinLines_flatMap {α : Type} (f : α → List String) (xs : List α) :
    joinLines (xs.flatMap f) = String.join (xs.map fun x => joinLines (f x)) := by
  induction xs with
  | nil => rfl
  | cons x xs ih => rw [List.flatMap_cons, joinLines_append, ih, List.map_cons, String.join_cons]

/-- A line without line feeds is cut off in front of the others, less a carriage return at its end. -/
theorem splitLines_joinLines_cons {l : String} (hl : '\n' ∉ l.toList) (ls : List String) :
    splitLines (joinLines (l :: ls)) =
      String.ofList (dropReturn l.toList.reverse).reverse :: splitLines (joinLines ls) := by
  rw [splitLines, toList_joinLines_cons, splitFrom_append hl, List.append_nil, List.map_cons]
  rfl

/-- The line feeds in the lines count, beside those that end the lines. -/
theorem count_newline_joinLines_eq_add (ls : List String) :
    (joinLines ls).toList.count '\n' = ls.length + (ls.map fun l => l.toList.count '\n').sum := by
  induction ls with
  | nil => rfl
  | cons l ls ih =>
    rw [toList_joinLines_cons, List.count_append, List.count_cons_self, ih, List.length_cons, List.map_cons,
      List.sum_cons]
    omega

theorem length_splitLines_joinLines (ls : List String) :
    (splitLines (joinLines ls)).length = ls.length + (ls.map fun l => l.toList.count '\n').sum := by
  induction ls with
  | nil => rfl
  | cons l ls ih =>
    rw [splitLines, List.length_map] at *
    rw [toList_joinLines_cons, length_splitFrom_append, ih, List.length_cons, List.map_cons, List.sum_cons]
    omega

theorem sum_newlines_eq_zero_iff {ls : List String} :
    (ls.map fun l => l.toList.count '\n').sum = 0 ↔ ∀ l ∈ ls, '\n' ∉ l.toList := by
  simp only [List.sum_eq_zero_iff, List.forall_mem_map, List.count_eq_zero]

/-- Lines are told apart by the line feeds that end them exactly if none of them holds a line feed or has a carriage
return at its end. -/
theorem splitLines_joinLines_iff {ls : List String} :
    splitLines (joinLines ls) = ls ↔ ∀ l ∈ ls, '\n' ∉ l.toList ∧ l.toList.getLast? ≠ some '\r' := by
  have hcons : ∀ l ls', '\n' ∉ l.toList → (splitLines (joinLines (l :: ls')) = l :: ls' ↔
      l.toList.getLast? ≠ some '\r' ∧ splitLines (joinLines ls') = ls') := by
    intro l ls' hl
    have hline : String.ofList (dropReturn l.toList.reverse).reverse = l ↔ l.toList.getLast? ≠ some '\r' := by
      rw [← List.head?_reverse, ← dropReturn_eq_self_iff, ← String.toList_inj, String.toList_ofList,
        List.reverse_eq_iff]
    rw [splitLines_joinLines_cons hl, List.cons.injEq, hline]
  constructor
  · intro h
    -- There are as many lines as line feeds, so no line feed is left for the lines themselves.
    have hlength : (splitLines (joinLines ls)).length = ls.length := congrArg List.length h
    rw [length_splitLines_joinLines] at hlength
    have hnone : ∀ l ∈ ls, '\n' ∉ l.toList := sum_newlines_eq_zero_iff.mp (by omega)
    clear hlength
    induction ls with
    | nil => simp
    | cons l ls ih =>
      obtain ⟨hl, hrest⟩ := (hcons l ls (hnone l List.mem_cons_self)).mp h
      refine List.forall_mem_cons.mpr ⟨⟨hnone l List.mem_cons_self, hl⟩, ?_⟩
      exact ih hrest fun x hx => hnone x (List.mem_cons_of_mem l hx)
  · intro h
    induction ls with
    | nil => rfl
    | cons l ls ih =>
      obtain ⟨⟨hfeed, hreturn⟩, hrest⟩ := List.forall_mem_cons.mp h
      exact (hcons l ls hfeed).mpr ⟨hreturn, ih hrest⟩

/-- Plain lines are told apart by the line feeds that end them. -/
theorem splitLines_joinLines {ls : List String} (h : ∀ l ∈ ls, Plain l) : splitLines (joinLines ls) = ls :=
  splitLines_joinLines_iff.mpr fun l hl =>
    ⟨(h l hl).not_mem (by decide), fun hlast => (h l hl).not_mem (by decide) (List.mem_of_getLast? hlast)⟩

theorem count_newline_joinLines {ls : List String} (h : ∀ l ∈ ls, Plain l) :
    (joinLines ls).toList.count '\n' = ls.length := by
  have hnone : (ls.map fun l => l.toList.count '\n').sum = 0 :=
    sum_newlines_eq_zero_iff.mpr fun l hl => (h l hl).not_mem (by decide)
  rw [count_newline_joinLines_eq_add, hnone, Nat.add_zero]

theorem mem_joinLines {ls : List String} {c : Char} (hc : c ∈ (joinLines ls).toList) :
    c = '\n' ∨ ∃ l ∈ ls, c ∈ l.toList := by
  simp only [joinLines, String.toList_join, List.flatMap_map, List.mem_flatMap, String.toList_append,
    List.mem_append] at hc
  obtain ⟨l, hl, hc | hc⟩ := hc
  · exact .inr ⟨l, hl, hc⟩
  · exact .inl (List.mem_singleton.mp hc)

/-- The line feeds that end plain lines are the only control characters of their text. -/
theorem eq_newline_of_mem_joinLines {ls : List String} (h : ∀ l ∈ ls, Plain l) {c : Char}
    (hc : c ∈ (joinLines ls).toList) (hcontrol : isControl c = true) : c = '\n' := by
  rcases mem_joinLines hc with hfeed | ⟨l, hl, hmem⟩
  · exact hfeed
  · exact absurd hmem ((h l hl).not_mem hcontrol)

end DocLint.Text
