import DocLint.Override
import DocLint.Proofs.Failure
import Mathlib.Data.List.Forall2

/-!
# Proofs: severities chosen by an operator

A flag is cut at its last equals sign. The severity chosen for a rule is that of the last entry for its name; of two
lists of entries the one merged last goes first.
-/

namespace DocLint

/-! ## Flags -/

theorem splitLast?_eq_none_iff {mark : Char} {cs : List Char} : splitLast? mark cs = none ↔ mark ∉ cs := by
  induction cs with
  | nil => simp [splitLast?]
  | cons c r ih =>
    unfold splitLast?
    cases hr : splitLast? mark r with
    | some parts =>
      have hmem : mark ∈ r := by
        by_contra hmem
        rw [ih.mpr hmem] at hr
        cases hr
      simp [hmem]
    | none =>
      have hrest : mark ∉ r := ih.mp hr
      by_cases hc : c = mark
      · simp [hc]
      · simp [hc, hrest, Ne.symm hc]

/-- The cut is at the last occurrence. -/
theorem splitLast?_eq_some_iff {mark : Char} {cs before after : List Char} :
    splitLast? mark cs = some (before, after) ↔ cs = before ++ mark :: after ∧ mark ∉ after := by
  induction cs generalizing before with
  | nil => simp [splitLast?]
  | cons c r ih =>
    unfold splitLast?
    cases hr : splitLast? mark r with
    | some parts =>
      -- The mark occurs further on, so the cut of the rest is the cut of the whole.
      obtain ⟨front, back⟩ := parts
      have hmem : mark ∈ r := by
        by_contra hmem
        rw [splitLast?_eq_none_iff.mpr hmem] at hr
        cases hr
      constructor
      · intro h
        cases h
        obtain ⟨hcut, hlast⟩ := ih.mp hr
        exact ⟨by rw [hcut, List.cons_append], hlast⟩
      · rintro ⟨hcut, hlast⟩
        cases before with
        | nil =>
          cases hcut
          exact absurd hmem hlast
        | cons b before =>
          cases hcut
          cases hr.symm.trans (ih.mpr ⟨rfl, hlast⟩)
          rfl
    | none =>
      have hrest : mark ∉ r := splitLast?_eq_none_iff.mp hr
      constructor
      · intro h
        simp only at h
        split_ifs at h with hc
        cases h
        exact ⟨by rw [hc, List.nil_append], hrest⟩
      · rintro ⟨hcut, hlast⟩
        cases before with
        | nil =>
          cases hcut
          exact if_pos rfl
        | cons b before =>
          cases hcut
          exact absurd (by simp) hrest

/-- What a text says as a flag: after its last equals sign stands a severity, and before it the name of a rule, perhaps
with blanks around it. -/
def IsFlag (text : String) (flag : String × Severity) : Prop :=
  ∃ before after, text.toList = before ++ '=' :: after ∧ '=' ∉ after ∧
    flag.1.toList = Text.trimChars before ∧ flag.1 ≠ "" ∧ Severity.read (String.ofList after) = .ok flag.2

theorem isFlag_of_readFlag {text : String} {flag : String × Severity} (h : readFlag text = .ok flag) :
    IsFlag text flag := by
  unfold readFlag at h
  split at h
  · cases h
  · case h_2 before after hcut =>
    obtain ⟨htext, hlast⟩ := splitLast?_eq_some_iff.mp hcut
    simp only at h
    split_ifs at h with hname
    split at h
    · case h_1 s hlevel =>
      cases h
      refine ⟨before, after, htext, hlast, String.toList_ofList, ?_, hlevel⟩
      intro hempty
      exact hname (by simpa using hempty)
    · cases h

theorem readFlag_of_isFlag {text : String} {flag : String × Severity} (h : IsFlag text flag) :
    readFlag text = .ok flag := by
  obtain ⟨before, after, htext, hlast, hname, hne, hlevel⟩ := h
  have hcut : splitLast? '=' text.toList = some (before, after) := splitLast?_eq_some_iff.mpr ⟨htext, hlast⟩
  simp [readFlag, hcut, hlevel, ← hname, hne]

theorem readFlag_eq_ok_iff {text : String} {flag : String × Severity} :
    readFlag text = .ok flag ↔ IsFlag text flag :=
  ⟨isFlag_of_readFlag, readFlag_of_isFlag⟩

/-! ## Entries -/

/-- The severity in the last entry for a rule. -/
def lastLevel? (entries : List (String × Severity)) (rule : String) : Option Severity :=
  (entries.filter (·.1 = rule)).getLast?.map (·.2)

theorem lastLevel?_filter {entries : List (String × Severity)} {keep : String → Bool} {rule : String}
    (h : keep rule = true) : lastLevel? (entries.filter fun e => keep e.1) rule = lastLevel? entries rule := by
  have hfilter : (entries.filter fun e => keep e.1).filter (·.1 = rule) = entries.filter (·.1 = rule) := by
    rw [List.filter_filter]
    refine List.filter_congr fun e _ => ?_
    by_cases he : e.1 = rule
    · simp [he, h]
    · simp [he]
  rw [lastLevel?, lastLevel?, hfilter]

namespace Overrides

theorem entries_setAll (o : Overrides) (entries : List (String × Severity)) :
    (o.setAll entries).entries = entries.reverse ++ o.entries := by
  induction entries generalizing o with
  | nil => rfl
  | cons e entries ih =>
    have hrest : o.setAll (e :: entries) = (o.set e.1 e.2).setAll entries := rfl
    rw [hrest, ih, set, List.reverse_cons, List.append_assoc]
    rfl

theorem get?_ofList (entries : List (String × Severity)) (rule : String) :
    (ofList entries).get? rule = lastLevel? entries rule := by
  rw [get?, ofList, entries_setAll, empty, List.append_nil, lastLevel?, ← List.head?_filter, List.filter_reverse,
    List.head?_reverse]

theorem get?_merge (o later : Overrides) (rule : String) :
    (o.merge later).get? rule = (later.get? rule <|> o.get? rule) := by
  simp only [get?, merge, List.find?_append]
  cases later.entries.find? (·.1 = rule) <;> rfl

end Overrides

end DocLint
