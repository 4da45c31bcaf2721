import DocLint.Proofs.Text.Line
import DocLint.Report.Human

/-!
# Proofs: texts without their styles

A style is switched by an escape sequence: the escape character, a bracket, numbers with semicolons between them, and
the letter `m`. What is left of a text without these sequences is told piece by piece: a piece shows another one if
this is what is left of it, whatever follows (`Shows`). A piece without the escape character shows itself, and to put
a piece in bold or in a colour changes nothing of what it shows.
-/

namespace DocLint.Text

open Report (joinLines)

/-- The character that opens an escape sequence. -/
def escape : Char := '\x1b'

/-- Whether a character is one of the numbers of a style. -/
def isParameter (c : Char) : Bool :=
  isDigit c || c = ';'

/-- Whether an escape character with the text after it starts with a style. -/
def opensStyle : List Char → Bool
  | '[' :: r => (r.dropWhile isParameter).head? = some 'm'
  | _ => false

/-- The characters of a text that are in none of its styles; it may begin inside of one. -/
def dropStyles : Bool → List Char → List Char
  | _, [] => []
  | true, c :: r => dropStyles (c ≠ 'm') r
  | false, c :: r => if c = escape && opensStyle r then dropStyles true r else c :: dropStyles false r

/-- A text without its styles. -/
def unstyled (s : String) : String :=
  String.ofList (dropStyles false s.toList)

example : unstyled "\x1b[1m\x1b[31;4merror\x1b[m: \x1b[1;x \x1bm" = "error: \x1b[1;x \x1bm" := by decide +kernel

/-- Whatever follows, `t` is what is left of `s` without its styles. -/
def Shows (s t : String) : Prop :=
  ∀ r, dropStyles false (s.toList ++ r) = t.toList ++ dropStyles false r

variable {s t : String}

theorem Shows.unstyled_eq (h : Shows s t) : unstyled s = t := by
  have hnil : dropStyles false (s.toList ++ []) = t.toList ++ dropStyles false [] := h []
  rw [List.append_nil, dropStyles, List.append_nil] at hnil
  rw [unstyled, hnil, String.ofList_toList]

theorem Shows.append {s' t' : String} (h : Shows s t) (h' : Shows s' t') : Shows (s ++ s') (t ++ t') := by
  intro r
  rw [String.toList_append, String.toList_append, List.append_assoc, List.append_assoc, h, h']

theorem shows_self (h : escape ∉ s.toList) : Shows s s := by
  intro r
  generalize s.toList = cs at h
  induction cs with
  | nil => rfl
  | cons c cs ih =>
    have hc : c ≠ escape := fun hc => h (hc ▸ List.mem_cons_self)
    have hrest : escape ∉ cs := fun hmem => h (List.mem_cons_of_mem c hmem)
    simp [dropStyles, hc, ih hrest]

theorem Plain.shows_self (h : Plain s) : Shows s s :=
  Text.shows_self (h.not_mem (by decide))

theorem dropStyles_inside {l : List Char} (hl : 'm' ∉ l) (r : List Char) :
    dropStyles true (l ++ 'm' :: r) = dropStyles false r := by
  induction l with
  | nil => simp [dropStyles]
  | cons c l ih =>
    have hc : c ≠ 'm' := fun hc => hl (hc ▸ List.mem_cons_self)
    have hrest : 'm' ∉ l := fun hmem => hl (List.mem_cons_of_mem c hmem)
    simpa [dropStyles, hc] using ih hrest

/-- An escape sequence of a style shows nothing. -/
theorem shows_empty {code : String} (hcode : code.toList.all isParameter = true) :
    Shows ("\x1b[" ++ code ++ "m") "" := by
  intro r
  have h : ∀ c ∈ code.toList, isParameter c = true := List.all_eq_true.mp hcode
  have hm : isParameter 'm' = false := by decide
  have hopens : opensStyle ('[' :: (code.toList ++ 'm' :: r)) = true := by
    simp [opensStyle, List.dropWhile_append_of_pos h, hm]
  have hinside : 'm' ∉ '[' :: code.toList := by
    intro hmem
    rcases List.mem_cons.mp hmem with hbracket | hmem
    · cases hbracket
    · rw [h 'm' hmem] at hm
      cases hm
  have htext : ("\x1b[" ++ code ++ "m").toList ++ r = escape :: ('[' :: (code.toList ++ 'm' :: r)) := by
    simp [escape]
  rw [htext, dropStyles, hopens, ← List.cons_append, dropStyles_inside hinside]
  rfl

theorem Shows.styled {on off : String} (hon : on.toList.all isParameter = true)
    (hoff : off.toList.all isParameter = true) (h : Shows s t) : Shows (styled on off s) t := by
  have hshows := ((shows_empty hon).append h).append (shows_empty hoff)
  rw [String.empty_append, String.append_empty] at hshows
  simpa only [DocLint.styled, String.append_assoc] using hshows

theorem Shows.bold (h : Shows s t) (colours : Bool) : Shows (bold colours s) t := by
  cases colours with
  | true => exact h.styled (by decide) (by decide)
  | false => exact h

theorem all_isParameter_code (c : Colour) : c.code.toList.all isParameter = true := by
  cases c <;> decide

theorem Shows.coloured (h : Shows s t) (colours : Bool) (c : Colour) : Shows (coloured colours c s) t := by
  cases colours with
  | true => exact h.styled (all_isParameter_code c) (by decide)
  | false => exact h

theorem Shows.joinLines {ls ms : List String} (h : List.Forall₂ Shows ls ms) :
    Shows (joinLines ls) (joinLines ms) := by
  induction h with
  | nil => exact Text.shows_self (by decide)
  | cons hl _ ih =>
    intro r
    rw [toList_joinLines_cons, toList_joinLines_cons, List.append_assoc, hl, List.append_assoc]
    simp [dropStyles, escape, ih r]

end DocLint.Text
