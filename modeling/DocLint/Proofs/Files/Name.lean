import DocLint.Files.Name
import Mathlib.Data.List.Infix
import Mathlib.Data.Set.List

/-!
# Proofs: the steps of a file name

To follow a name is to take its steps, its parts without those that are no components. Two texts with a slash between
them have the steps of both. The parent of a name starts where the name does, is shorter, and has all its steps or all
but the last; a name without a parent has no steps. So among a name and its ancestors there is one for every beginning
of the steps, and the first that passes a test has the longest beginning that does.
-/

namespace DocLint.FileName

/-! ## Steps -/

/-- The components of a text, apart from how it starts. -/
def stepsOf (cs : List Char) : List Component :=
  (cs.splitOn '/').filterMap componentOf?

/-- The components of a name, apart from how it starts. -/
def steps (n : FileName) : List Component :=
  n.parts.filterMap componentOf?

theorem steps_mk (cs : List Char) : steps ⟨String.ofList cs⟩ = stepsOf cs := by
  rw [steps, parts, String.toList_ofList, stepsOf]

theorem stepsOf_part {part : List Char} (h : '/' ∉ part) : stepsOf part = (componentOf? part).toList := by
  rw [stepsOf, List.splitOn_eq_singleton h]
  cases hpart : componentOf? part <;> simp [hpart]

theorem stepsOf_nil : stepsOf [] = [] :=
  stepsOf_part List.not_mem_nil

theorem stepsOf_append_slash (a b : List Char) : stepsOf (a ++ '/' :: b) = stepsOf a ++ stepsOf b := by
  rw [stepsOf, List.splitOn_append_cons_self, List.filterMap_append]
  rfl

theorem stepsOf_slash (b : List Char) : stepsOf ('/' :: b) = stepsOf b := by
  have hsplit := stepsOf_append_slash [] b
  rwa [stepsOf_nil] at hsplit

/-- A step goes up or to an entry. -/
theorem eq_up_or_entry {n : FileName} {c : Component} (h : c ∈ n.steps) : c = .up ∨ ∃ x, c = .entry x := by
  obtain ⟨part, -, hpart⟩ := List.mem_filterMap.mp h
  unfold componentOf? at hpart
  split at hpart
  · cases hpart
  · split at hpart
    · cases hpart
      exact .inl rfl
    · cases hpart
      exact .inr ⟨_, rfl⟩

theorem exists_names_of_no_up {n : FileName} (h : Component.up ∉ n.steps) :
    ∃ names : List String, n.steps = names.map .entry := by
  have hentries : n.steps ∈ {cs : List Component | ∀ c ∈ cs, c ∈ Set.range Component.entry} := by
    intro c hc
    rcases eq_up_or_entry hc with rfl | ⟨x, rfl⟩
    · exact absurd hc h
    · exact ⟨x, rfl⟩
  rw [← Set.range_list_map] at hentries
  obtain ⟨names, hnames⟩ := hentries
  exact ⟨names, hnames.symm⟩

/-! ## Texts written backwards -/

/-- A text is its first part, or its first part, a slash and the rest. -/
theorem firstPart_cases (cs : List Char) :
    '/' ∉ cs.takeWhile (· ≠ '/') ∧
      (cs.dropWhile (· ≠ '/') = [] ∧ cs = cs.takeWhile (· ≠ '/') ∨
        ∃ r, cs.dropWhile (· ≠ '/') = '/' :: r ∧ cs = cs.takeWhile (· ≠ '/') ++ '/' :: r) := by
  have hwhole : cs = cs.takeWhile (· ≠ '/') ++ cs.dropWhile (· ≠ '/') := List.takeWhile_append_dropWhile.symm
  constructor
  · intro hmem
    have hpasses := List.all_eq_true.mp List.all_takeWhile _ hmem
    simp at hpasses
  · cases hrest : cs.dropWhile (· ≠ '/') with
    | nil =>
      rw [hrest, List.append_nil] at hwhole
      exact .inl ⟨rfl, hwhole⟩
    | cons c r =>
      have hc : c = '/' := by
        have hstop := List.head?_dropWhile_not (fun c => decide (c ≠ '/')) cs
        rw [hrest] at hstop
        simpa using hstop
      subst hc
      rw [hrest] at hwhole
      exact .inr ⟨r, rfl, hwhole⟩

theorem head?_splitOn (cs : List Char) : (cs.splitOn '/').head? = some (cs.takeWhile (· ≠ '/')) := by
  obtain ⟨hslash, ⟨-, hwhole⟩ | ⟨r, -, hwhole⟩⟩ := firstPart_cases cs
  · rw [← hwhole] at hslash ⊢
    rw [List.splitOn_eq_singleton hslash]
    rfl
  · conv_lhs => rw [hwhole, List.splitOn_append_cons_self_of_not_mem hslash]
    rfl

/-- The last part of a text that is written backwards stands in front. -/
theorem stepsOf_reverse (cs : List Char) :
    stepsOf cs.reverse =
      stepsOf ((cs.dropWhile (· ≠ '/')).drop 1).reverse ++ (componentOf? (cs.takeWhile (· ≠ '/')).reverse).toList := by
  obtain ⟨hslash, hcases⟩ := firstPart_cases cs
  have hback : '/' ∉ (cs.takeWhile (· ≠ '/')).reverse := fun hmem => hslash (List.mem_reverse.mp hmem)
  rw [← stepsOf_part hback]
  obtain ⟨hrest, hwhole⟩ | ⟨r, hrest, hwhole⟩ := hcases
  · rw [hrest, ← hwhole]
    exact (List.nil_append _).symm
  · have hreverse : cs.reverse = r.reverse ++ '/' :: (cs.takeWhile (· ≠ '/')).reverse := by
      conv_lhs => rw [hwhole]
      simp
    rw [hreverse, stepsOf_append_slash, hrest]
    rfl

theorem trimBackwards_suffix (fuel : Nat) (cs : List Char) : trimBackwards fuel cs <:+ cs := by
  induction fuel generalizing cs with
  | zero => exact List.suffix_refl cs
  | succ fuel ih =>
    rw [trimBackwards]
    split
    · exact List.suffix_refl cs
    · exact (ih _).trans ((List.drop_suffix 1 _).trans (List.dropWhile_suffix _))

/-- What is dropped is no component, and what is left ends with one. -/
theorem trimBackwards_spec {fuel : Nat} {cs : List Char} (h : cs.length ≤ fuel) :
    stepsOf (trimBackwards fuel cs).reverse = stepsOf cs.reverse ∧
      (trimBackwards fuel cs = [] ∨
        ∃ c, componentOf? ((trimBackwards fuel cs).takeWhile (· ≠ '/')).reverse = some c) := by
  induction fuel generalizing cs with
  | zero =>
    obtain rfl : cs = [] := List.eq_nil_of_length_eq_zero (Nat.le_zero.mp h)
    exact ⟨rfl, .inl rfl⟩
  | succ fuel ih =>
    rw [trimBackwards]
    split
    · case isTrue hstop =>
      refine ⟨rfl, ?_⟩
      rw [Bool.or_eq_true, List.isEmpty_iff] at hstop
      exact hstop.imp_right Option.isSome_iff_exists.mp
    · case isFalse hgoes =>
      rw [Bool.or_eq_true, List.isEmpty_iff, not_or, Bool.not_eq_true, Option.isSome_eq_false_iff,
        Option.isNone_iff_eq_none] at hgoes
      obtain ⟨hne, hpart⟩ := hgoes
      have hlength : ((cs.dropWhile (· ≠ '/')).drop 1).length ≤ fuel := by
        have hdrop := (List.dropWhile_suffix (fun c => decide (c ≠ '/')) (l := cs)).length_le
        have hpos := List.length_pos_iff.mpr hne
        rw [List.length_drop]
        omega
      obtain ⟨hsteps, hend⟩ := ih hlength
      refine ⟨?_, hend⟩
      rw [hsteps, stepsOf_reverse cs, hpart]
      exact (List.append_nil _).symm

/-! ## Parents -/

/-- How a text starts: at the root, at the present directory, or with its first step. -/
inductive Lead : List Char → List Char → Prop where
  /-- A slash stands for the root. -/
  | root {body : List Char} : Lead ['/'] body
  /-- A dot that is a part of its own stands for the present directory. -/
  | here {body : List Char} (alone : body = [] ∨ ∃ r, body = '/' :: r) : Lead ['.'] body
  /-- There is neither. -/
  | none {body : List Char} (relative : body.head? ≠ some '/') : Lead [] body

theorem Lead.cut {lead body r : List Char} (h : Lead lead body) (hr : r <+: body) : Lead lead r := by
  obtain ⟨t, rfl⟩ := hr
  cases h with
  | root => exact .root
  | here alone =>
    cases r with
    | nil => exact .here (.inl rfl)
    | cons c r =>
      rcases alone with hnil | ⟨b, hb⟩
      · cases hnil
      · cases hb
        exact .here (.inr ⟨r, rfl⟩)
  | none relative =>
    cases r with
    | nil => exact .none (by simp)
    | cons c r => exact .none relative

theorem Lead.stepsOf {lead body : List Char} (h : Lead lead body) : stepsOf (lead ++ body) = stepsOf body := by
  cases h with
  | root => exact stepsOf_slash body
  | here alone =>
    have hdot : FileName.stepsOf ['.'] = [] := stepsOf_part (by decide)
    rcases alone with rfl | ⟨r, rfl⟩
    · rw [List.append_nil, hdot, stepsOf_nil]
    · rw [stepsOf_append_slash, hdot, stepsOf_slash, List.nil_append]
  | none relative => rfl

theorem Lead.head? {lead body : List Char} (h : Lead lead body) :
    (lead ++ body).head? = some '/' ↔ lead = ['/'] := by
  cases h with
  | root => simp
  | here alone => simp
  | none relative => simpa using relative

/-- A name starts in one of these ways, with as many characters as its parent keeps in any case. -/
theorem exists_lead (n : FileName) :
    ∃ lead body, n.text.toList = lead ++ body ∧ Lead lead body ∧
      lead.length = (if n.isAbsolute || decide (n.parts.head? = some ['.']) then 1 else 0) ∧
      (n.parts.head? = some ['.'] ↔ lead = ['.']) := by
  have hfirst : n.parts.head? = some (n.text.toList.takeWhile (· ≠ '/')) := head?_splitOn n.text.toList
  by_cases habs : n.isAbsolute = true
  · obtain ⟨body, hbody⟩ := List.head?_eq_some_iff.mp (of_decide_eq_true habs)
    refine ⟨['/'], body, hbody, .root, by simp [habs], ?_⟩
    rw [hfirst, hbody]
    simp
  · have hrelative : n.text.toList.head? ≠ some '/' := fun h => habs (decide_eq_true h)
    by_cases hhere : n.parts.head? = some ['.']
    · have hdot : n.text.toList.takeWhile (· ≠ '/') = ['.'] := Option.some.inj (hfirst.symm.trans hhere)
      obtain ⟨-, ⟨-, hwhole⟩ | ⟨r, -, hwhole⟩⟩ := firstPart_cases n.text.toList
      · rw [hdot] at hwhole
        exact ⟨['.'], [], hwhole, .here (.inl rfl), by simp [hhere], by simp [hhere]⟩
      · rw [hdot] at hwhole
        exact ⟨['.'], '/' :: r, hwhole, .here (.inr ⟨r, rfl⟩), by simp [hhere], by simp [hhere]⟩
    · exact ⟨[], n.text.toList, rfl, .none hrelative, by simp [habs, hhere], by simp [hhere]⟩

theorem steps_of_lead {n : FileName} {lead body : List Char} (htext : n.text.toList = lead ++ body)
    (hlead : Lead lead body) : n.steps = stepsOf body := by
  rw [steps, parts, htext]
  exact hlead.stepsOf

/-- Dropping the last component of a text, with whatever is no component behind it and in front of it. -/
theorem dropLast_spec (body : List Char) :
    let back := trimBackwards body.reverse.length body.reverse
    let next := (back.dropWhile (· ≠ '/')).drop 1
    let front := (trimBackwards next.length next).reverse
    (back = [] ∧ stepsOf body = []) ∨
      (back ≠ [] ∧ front <+: body ∧ front.length < body.length ∧ ∃ c, stepsOf body = stepsOf front ++ [c]) := by
  intro back next front
  obtain ⟨hsame, hend⟩ := trimBackwards_spec (Nat.le_refl body.reverse.length)
  obtain ⟨hfront, -⟩ := trimBackwards_spec (Nat.le_refl next.length)
  have hback : stepsOf back.reverse = stepsOf body := by rw [hsame, List.reverse_reverse]
  have hlast : back = [] ∨ ∃ c, componentOf? (back.takeWhile (· ≠ '/')).reverse = some c := hend
  rcases hlast with hnil | ⟨c, hc⟩
  · left
    rw [hnil] at hback
    exact ⟨hnil, hback.symm.trans stepsOf_nil⟩
  · right
    have hpart : back.takeWhile (· ≠ '/') ≠ [] := by
      intro hnil
      rw [hnil] at hc
      cases hc
    -- What is left of the text is what it starts with, since what is dropped stands in front of it backwards.
    have hshort : front.reverse <:+ next := by
      rw [List.reverse_reverse]
      exact trimBackwards_suffix _ next
    have hnext : next <:+ back := (List.drop_suffix 1 _).trans (List.dropWhile_suffix _)
    have hbody : back <:+ body.reverse := trimBackwards_suffix _ _
    refine ⟨?_, ?_, ?_, c, ?_⟩
    · intro hnil
      rw [hnil] at hpart
      exact hpart rfl
    · have hreverse := hshort.trans (hnext.trans hbody)
      exact List.reverse_suffix.mp hreverse
    · have hpos := List.length_pos_iff.mpr hpart
      have hsplit := congrArg List.length (List.takeWhile_append_dropWhile (p := fun c => decide (c ≠ '/')) (l := back))
      have hfrontLength := hshort.length_le
      have hbackLength := hbody.length_le
      rw [List.length_append] at hsplit
      rw [List.length_reverse] at hfrontLength hbackLength
      simp only [next, List.length_drop] at hfrontLength
      omega
    · rw [← hback, stepsOf_reverse, hc, hfront]
      rfl

/-- A name that has steps has a parent, which has one less. A name without steps has a parent only if it is one for the
present directory, and then the parent is the empty name. -/
theorem parent?_cases (n : FileName) :
    ∃ lead body, n.text.toList = lead ++ body ∧ Lead lead body ∧
      ((n.steps = [] ∧ n.parent? = if lead = ['.'] then some ⟨""⟩ else none) ∨
        ∃ front c, front <+: body ∧ front.length < body.length ∧ n.steps = stepsOf front ++ [c] ∧
          n.parent? = some ⟨String.ofList (lead ++ front)⟩) := by
  obtain ⟨lead, body, htext, hlead, hlength, hhere⟩ := n.exists_lead
  have hdrop : n.text.toList.drop lead.length = body := by rw [htext, List.drop_left]
  have htake : n.text.toList.take lead.length = lead := by rw [htext, List.take_left]
  rw [hlength] at hdrop htake
  refine ⟨lead, body, htext, hlead, ?_⟩
  rw [steps_of_lead htext hlead]
  rcases dropLast_spec body with ⟨hnil, hsteps⟩ | ⟨hne, hbegins, hshorter, c, hc⟩
  · left
    refine ⟨hsteps, ?_⟩
    unfold parent?
    simp only [hdrop, hnil]
    simp only [hhere]
  · right
    refine ⟨_, c, hbegins, hshorter, hc, ?_⟩
    unfold parent?
    simp only [hdrop, htake]

/-- The parent of a name starts where the name does, is shorter, and has all its steps or all but the last. -/
theorem of_parent? {n p : FileName} (h : n.parent? = some p) :
    p.isAbsolute = n.isAbsolute ∧ p.text.length < n.text.length ∧
      (n.steps = p.steps ∨ ∃ c, n.steps = p.steps ++ [c]) := by
  obtain ⟨lead, body, htext, hlead, hcases⟩ := n.parent?_cases
  rcases hcases with ⟨hsteps, hparent⟩ | ⟨front, c, hbegins, hshorter, hsteps, hparent⟩
  · rw [hparent] at h
    split at h
    · case isTrue hdot =>
      cases h
      subst hdot
      refine ⟨?_, ?_, .inl ?_⟩
      · simp [isAbsolute, htext]
      · rw [← String.length_toList, ← String.length_toList, htext]
        simp
      · rw [hsteps]
        exact stepsOf_nil.symm
    · cases h
  · rw [hparent] at h
    cases h
    refine ⟨?_, ?_, .inr ⟨c, ?_⟩⟩
    · simp only [isAbsolute, String.toList_ofList, htext, (hlead.cut hbegins).head?, hlead.head?]
    · rw [← String.length_toList, ← String.length_toList, String.toList_ofList, htext, List.length_append,
        List.length_append]
      omega
    · rw [hsteps, steps_mk, (hlead.cut hbegins).stepsOf]

theorem steps_prefix_of_parent? {n p : FileName} (h : n.parent? = some p) : p.steps <+: n.steps := by
  obtain ⟨-, -, hsame | ⟨c, hlast⟩⟩ := of_parent? h
  · rw [hsame]
  · rw [hlast]
    exact List.prefix_append _ _

theorem steps_of_parent?_eq_none {n : FileName} (h : n.parent? = none) : n.steps = [] := by
  obtain ⟨lead, body, -, -, ⟨hsteps, -⟩ | ⟨front, c, -, -, -, hparent⟩⟩ := n.parent?_cases
  · exact hsteps
  · rw [hparent] at h
    cases h

/-! ## Entries -/

/-- The name of an entry is the entry alone, or stands behind a slash, which the name of the directory may end with. -/
theorem text_child (dir : FileName) {x : String} (hslash : '/' ∉ x.toList) :
    (dir.text.toList = [] ∧ (dir.child x).text.toList = x.toList) ∨
      ∃ d, (dir.text.toList = d ∧ d ≠ [] ∨ dir.text.toList = d ++ ['/']) ∧
        (dir.child x).text.toList = d ++ '/' :: x.toList := by
  have hrelative : isAbsolute ⟨x⟩ = false := decide_eq_false fun hhead => hslash (List.mem_of_head? hhead)
  have htext : (dir.child x).text.toList =
      if dir.text.toList = [] ∨ dir.text.toList.getLast? = some '/' then dir.text.toList ++ x.toList
      else dir.text.toList ++ '/' :: x.toList := by
    simp only [child, join, hrelative, Bool.false_eq_true, if_false, Bool.or_eq_true, List.isEmpty_iff,
      decide_eq_true_eq]
    split <;> simp
  by_cases hnil : dir.text.toList = []
  · rw [if_pos (.inl hnil), hnil] at htext
    exact .inl ⟨hnil, htext⟩
  · right
    by_cases hend : dir.text.toList.getLast? = some '/'
    · obtain ⟨d, hd⟩ := List.getLast?_eq_some_iff.mp hend
      rw [if_pos (.inr hend), hd, List.append_assoc] at htext
      exact ⟨d, .inr hd, htext⟩
    · rw [if_neg (by simp [hnil, hend])] at htext
      exact ⟨_, .inl ⟨rfl, hnil⟩, htext⟩

/-- The name of an entry starts where that of the directory does. The entry is its last part, and the parts in front
have the steps of the directory. -/
theorem child_spec (dir : FileName) {x : String} (hslash : '/' ∉ x.toList) :
    (dir.child x).isAbsolute = dir.isAbsolute ∧
      ∃ front, (dir.child x).parts = front ++ [x.toList] ∧ front.filterMap componentOf? = dir.steps := by
  have hx : x.toList.head? ≠ some '/' := fun hhead => hslash (List.mem_of_head? hhead)
  rcases text_child dir hslash with ⟨hnil, htext⟩ | ⟨d, hd, htext⟩
  · refine ⟨?_, [], ?_, ?_⟩
    · simp [isAbsolute, hnil, htext, hx]
    · rw [parts, htext, List.splitOn_eq_singleton hslash, List.nil_append]
    · rw [steps, parts, hnil]
      rfl
  · refine ⟨?_, d.splitOn '/', ?_, ?_⟩
    · rcases hd with ⟨hd, hne⟩ | hd
      · obtain ⟨c, d', rfl⟩ := List.exists_cons_of_ne_nil hne
        simp [isAbsolute, hd, htext]
      · cases d <;> simp [isAbsolute, hd, htext]
    · rw [parts, htext, List.splitOn_append_cons_self, List.splitOn_eq_singleton hslash]
    · rw [steps, parts]
      rcases hd with ⟨hd, -⟩ | hd
      · rw [hd]
      · have hblank := stepsOf_append_slash d []
        rw [stepsOf_nil, List.append_nil] at hblank
        rw [hd]
        exact hblank.symm

/-! ## Ancestors -/

/-- A name with the longest beginning of a name's steps that passes a test, or none if no beginning does. -/
def LongestBeginning (Q : List Component → Prop) (n : FileName) : Option FileName → Prop
  | some a =>
    a.isAbsolute = n.isAbsolute ∧ a.steps <+: n.steps ∧ Q a.steps ∧
      ∀ q, q <+: n.steps → a.steps.length < q.length → ¬ Q q
  | none => ∀ q, q <+: n.steps → ¬ Q q

section
variable {Q : List Component → Prop} {n p : FileName}

theorem LongestBeginning.self (h : Q n.steps) : LongestBeginning Q n (some n) := by
  refine ⟨rfl, List.prefix_refl _, h, ?_⟩
  intro q hq hlonger
  have := hq.length_le
  omega

theorem LongestBeginning.of_parent {found : Option FileName} (hp : n.parent? = some p) (hn : ¬ Q n.steps)
    (h : LongestBeginning Q p found) : LongestBeginning Q n found := by
  obtain ⟨habs, -, hsteps⟩ := of_parent? hp
  have hbegins := steps_prefix_of_parent? hp
  -- A beginning of the steps is one of the parent's, too, unless it is all of them.
  have hcases (q : List Component) (hq : q <+: n.steps) : q <+: p.steps ∨ q = n.steps := by
    rcases hsteps with hsame | ⟨c, hlast⟩
    · exact .inl (hsame ▸ hq)
    · rw [hlast] at hq ⊢
      exact (List.prefix_concat_iff.mp hq).symm
  cases found with
  | none =>
    intro q hq
    rcases hcases q hq with hq' | rfl
    · exact h q hq'
    · exact hn
  | some a =>
    obtain ⟨ha, hbelow, htest, hlongest⟩ := h
    refine ⟨ha.trans habs, hbelow.trans hbegins, htest, ?_⟩
    intro q hq hlonger
    rcases hcases q hq with hq' | rfl
    · exact hlongest q hq' hlonger
    · exact hn

/-- Going up from a name, the first that passes a test is the one with the longest beginning of its steps, if the test
depends only on the steps and on where the name starts. -/
theorem find_ancestors {P : FileName → Bool} {fuel : Nat} (hfuel : n.text.length ≤ fuel)
    (hP : ∀ a : FileName, a.isAbsolute = n.isAbsolute → a.steps <+: n.steps → (P a = true ↔ Q a.steps)) :
    LongestBeginning Q n ((ancestors fuel n).find? P) := by
  -- A name without steps is the only one left to test.
  have hlast (n : FileName) (hn : n.steps = []) (htest : P n = true ↔ Q n.steps) :
      LongestBeginning Q n ([n].find? P) := by
    by_cases hpass : P n = true
    · rw [List.find?_cons_of_pos hpass]
      exact .self (htest.mp hpass)
    · rw [List.find?_cons_of_neg hpass]
      intro q hq
      rw [hn, List.prefix_nil] at hq
      rwa [hq, ← hn, ← htest]
  induction fuel generalizing n with
  | zero =>
    have htext : n.text.toList = [] := by
      rw [← List.length_eq_zero_iff, String.length_toList]
      exact Nat.le_zero.mp hfuel
    have hsteps : n.steps = [] := by
      rw [steps, parts, htext]
      exact stepsOf_nil
    exact hlast n hsteps (hP n rfl (List.prefix_refl _))
  | succ fuel ih =>
    have htest := hP n rfl (List.prefix_refl _)
    cases hparent : n.parent? with
    | none =>
      simp only [ancestors, hparent]
      exact hlast n (steps_of_parent?_eq_none hparent) htest
    | some p =>
      obtain ⟨habs, hshorter, -⟩ := of_parent? hparent
      simp only [ancestors, hparent]
      by_cases hpass : P n = true
      · rw [List.find?_cons_of_pos hpass]
        exact .self (htest.mp hpass)
      · rw [List.find?_cons_of_neg hpass]
        refine .of_parent hparent (fun h => hpass (htest.mpr h)) (ih ?_ ?_)
        · omega
        · intro a ha hbelow
          exact hP a (ha.trans habs) (hbelow.trans (steps_prefix_of_parent? hparent))

end

end DocLint.FileName
