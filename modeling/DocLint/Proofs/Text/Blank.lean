import DocLint.Text.Blank

/-!
# Proofs: trimming

What trimming leaves is told without saying how it is done: the text is white space, then what is left, then
white space again, and neither end of what is left is white space. Every text has one such part, and trimming
leaves it (`trimChars_eq_iff`).
-/

namespace DocLint.Text

/-- Neither end of the text is white space. -/
def Solid (cs : List Char) : Prop :=
  ∀ c, cs.head? = some c ∨ cs.getLast? = some c → isBlank c = false

/-- The text `t` is `cs` without the white space at its ends. -/
def Trimmed (cs t : List Char) : Prop :=
  Solid t ∧ ∃ a b, cs = a ++ (t ++ b) ∧ (∀ c ∈ a, isBlank c = true) ∧ ∀ c ∈ b, isBlank c = true

theorem trimStart_eq_self {cs : List Char} (h : ∀ c, cs.head? = some c → isBlank c = false) : trimStart cs = cs := by
  cases cs with
  | nil => rfl
  | cons c r => exact trimStart_of_head (h c rfl)

theorem trimStart_append {a r : List Char} (ha : ∀ c ∈ a, isBlank c = true) : trimStart (a ++ r) = trimStart r :=
  List.dropWhile_append_of_pos ha

theorem isBlank_of_head_trimStart {cs : List Char} {c : Char} (h : (trimStart cs).head? = some c) :
    isBlank c = false := by
  have hnot := List.head?_dropWhile_not isBlank cs
  rw [trimStart] at h
  simpa [h] using hnot

theorem exists_trimStart (cs : List Char) : ∃ a, cs = a ++ trimStart cs ∧ ∀ c ∈ a, isBlank c = true :=
  ⟨cs.takeWhile isBlank, (List.takeWhile_append_dropWhile).symm,
    fun _ hc => List.all_eq_true.mp List.all_takeWhile _ hc⟩

theorem trimEnd_append {t b : List Char} (hb : ∀ c ∈ b, isBlank c = true)
    (ht : ∀ c, t.getLast? = some c → isBlank c = false) : trimEnd (t ++ b) = t := by
  have hblank : ∀ c ∈ b.reverse, isBlank c = true := fun c hc => hb c (List.mem_reverse.mp hc)
  have hend : trimStart t.reverse = t.reverse := trimStart_eq_self fun c hc => ht c (List.head?_reverse ▸ hc)
  rw [trimEnd, List.reverse_append, trimStart_append hblank, hend, List.reverse_reverse]

theorem exists_trimEnd (cs : List Char) : ∃ b, cs = trimEnd cs ++ b ∧ ∀ c ∈ b, isBlank c = true := by
  obtain ⟨b, hb, hblank⟩ := exists_trimStart cs.reverse
  refine ⟨b.reverse, ?_, fun c hc => hblank c (List.mem_reverse.mp hc)⟩
  rw [trimEnd, ← List.reverse_append, ← hb, List.reverse_reverse]

/-- Trimming leaves a text whose ends are not white space. -/
theorem trimmed_trimChars (cs : List Char) : Trimmed cs (trimChars cs) := by
  obtain ⟨a, ha, hablank⟩ := exists_trimStart cs
  obtain ⟨b, hb, hbblank⟩ := exists_trimEnd (trimStart cs)
  refine ⟨?_, a, b, ?_, hablank, hbblank⟩
  · rintro c (hc | hc)
    · -- What `trimEnd` keeps starts where the text it is given starts.
      have hhead : (trimStart cs).head? = some c := by
        rw [hb, List.head?_append, show (trimEnd (trimStart cs)).head? = some c from hc]
        rfl
      exact isBlank_of_head_trimStart hhead
    · rw [trimChars, trimEnd, List.getLast?_reverse] at hc
      exact isBlank_of_head_trimStart hc
  · rw [trimChars, ← hb]
    exact ha

theorem trimChars_eq_of_trimmed {cs t : List Char} (h : Trimmed cs t) : trimChars cs = t := by
  obtain ⟨hsolid, a, b, rfl, ha, hb⟩ := h
  rw [trimChars, trimStart_append ha]
  cases t with
  | nil =>
    have hnil : trimStart b = [] := trimStart_eq_nil_iff.mpr hb
    rw [List.nil_append, hnil]
    rfl
  | cons c r =>
    rw [List.cons_append, trimStart_of_head (hsolid c (.inl rfl)), ← List.cons_append]
    exact trimEnd_append hb fun d hd => hsolid d (.inr hd)

/-- Trimming leaves exactly the text without the white space at its ends. -/
theorem trimChars_eq_iff {cs t : List Char} : trimChars cs = t ↔ Trimmed cs t := by
  constructor
  · rintro rfl
    exact trimmed_trimChars cs
  · exact trimChars_eq_of_trimmed

theorem Solid.trimmed {cs : List Char} (h : Solid cs) : Trimmed cs cs :=
  ⟨h, [], [], by simp, by simp, by simp⟩

/-- A text with no white space at either end is not trimmed. -/
theorem trimChars_eq_self {cs : List Char} (h : Solid cs) : trimChars cs = cs :=
  trimChars_eq_of_trimmed h.trimmed

theorem trimChars_trimChars (cs : List Char) : trimChars (trimChars cs) = trimChars cs :=
  trimChars_eq_self (trimmed_trimChars cs).1

/-- Trimming takes nothing but white space away. -/
theorem mem_trimChars {cs : List Char} {c : Char} (h : c ∈ cs) (hc : isBlank c = false) : c ∈ trimChars cs := by
  obtain ⟨-, a, b, hcs, ha, hb⟩ := trimmed_trimChars cs
  have hnot : ∀ l : List Char, (∀ d ∈ l, isBlank d = true) → c ∉ l := by
    intro l hl hmem
    rw [hl c hmem] at hc
    cases hc
  rw [hcs] at h
  rcases List.mem_append.mp h with hmem | h
  · exact absurd hmem (hnot a ha)
  · rcases List.mem_append.mp h with hmem | hmem
    · exact hmem
    · exact absurd hmem (hnot b hb)

theorem trimChars_eq_nil_iff {cs : List Char} : trimChars cs = [] ↔ ∀ c ∈ cs, isBlank c = true := by
  constructor
  · intro h
    obtain ⟨-, a, b, hab, ha, hb⟩ := trimChars_eq_iff.mp h
    intro c hc
    rw [hab, List.nil_append] at hc
    rcases List.mem_append.mp hc with hc | hc
    · exact ha c hc
    · exact hb c hc
  · intro h
    refine trimChars_eq_of_trimmed ⟨?_, cs, [], by simp, h, by simp⟩
    rintro c (hc | hc) <;> cases hc

theorem trim_eq_self_iff {s : String} : trim s = s ↔ Solid s.toList := by
  rw [trim, ← String.toList_inj, String.toList_ofList]
  constructor
  · intro h
    rw [← h]
    exact (trimmed_trimChars s.toList).1
  · exact trimChars_eq_self

end DocLint.Text
