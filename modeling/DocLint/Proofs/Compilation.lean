import DocLint.Proofs.History

/-!
# Proofs: the policies that can be compiled

A policy gives a profile (`RuleRegistry::from_policy`) exactly if nothing is wrong with any of its entries, where an
entry also has to have another name than the entries before it. Otherwise the first entry with which something is
wrong decides, and within it the selector comes before the pattern, the pattern before a blank name and that before a
name that is taken.

Whether names are distinct does not depend on their order, so neither does whether a policy gives a profile.
-/

namespace DocLint

namespace PolicyEntry

/-- The selector of the entry can be read, and its pattern if it has one. -/
def Readable (e : PolicyEntry) : Prop :=
  (∃ s, Selector.read e.path = .ok s) ∧ ∀ source, e.demand = .pattern source → ∃ p, Pattern.read source = .ok p

/-- Nothing is wrong with the entry, given the names that are taken. -/
structure Sound (taken : List String) (e : PolicyEntry) : Prop where
  /-- It can be read. -/
  readable : e.Readable
  /-- Its name is not blank. -/
  named : Text.trim e.name ≠ ""
  /-- Its name is not taken. -/
  fresh : e.name ∉ taken

/-- What is wrong with the entry, given the names that are taken. What comes first here hides what comes later. -/
inductive Offends (taken : List String) (e : PolicyEntry) : ProfileError → Prop where
  /-- Its selector cannot be read. -/
  | selector {cause : SelectorError} (h : Selector.read e.path = .error cause) :
      Offends taken e (.invalidSelector e.name e.path cause)
  /-- Its pattern cannot be read. -/
  | pattern {s : Selector} {source : String} {cause : Regex.PatternError} (selector : Selector.read e.path = .ok s)
      (demand : e.demand = .pattern source) (h : Pattern.read source = .error cause) :
      Offends taken e (.invalidPattern e.name cause)
  /-- Its name is blank. -/
  | blank (readable : e.Readable) (h : Text.trim e.name = "") : Offends taken e .emptyName
  /-- Its name is taken. -/
  | taken (readable : e.Readable) (named : Text.trim e.name ≠ "") (h : e.name ∈ taken) :
      Offends taken e (.duplicateName e.name)

/-- The entry is sound, or one thing is wrong with it. -/
theorem sound_or_offends (taken : List String) (e : PolicyEntry) :
    e.Sound taken ∨ ∃ err, e.Offends taken err := by
  cases hs : Selector.read e.path with
  | error cause => exact .inr ⟨_, .selector hs⟩
  | ok s =>
    by_cases hpattern : ∀ source, e.demand = .pattern source → ∃ p, Pattern.read source = .ok p
    · have hreadable : e.Readable := ⟨⟨s, hs⟩, hpattern⟩
      by_cases hblank : Text.trim e.name = ""
      · exact .inr ⟨_, .blank hreadable hblank⟩
      · by_cases htaken : e.name ∈ taken
        · exact .inr ⟨_, .taken hreadable hblank htaken⟩
        · exact .inl ⟨hreadable, hblank, htaken⟩
    · push Not at hpattern
      obtain ⟨source, hdemand, hfails⟩ := hpattern
      cases hp : Pattern.read source with
      | error cause => exact .inr ⟨_, .pattern hs hdemand hp⟩
      | ok p => exact absurd hp (hfails p)

theorem exists_compile_of_readable {e : PolicyEntry} (h : e.Readable) : ∃ c, e.compile = .ok c := by
  obtain ⟨⟨s, hs⟩, hpattern⟩ := h
  have hfamily : ∃ f, e.family = .ok f := by
    unfold family
    split
    · exact ⟨_, rfl⟩
    · exact ⟨_, rfl⟩
    · case h_3 source hdemand =>
      obtain ⟨p, hp⟩ := hpattern source hdemand
      exact ⟨_, by rw [hp]⟩
    · exact ⟨_, rfl⟩
    · exact ⟨_, rfl⟩
  obtain ⟨f, hf⟩ := hfamily
  simp [compile, hs, hf, Except.map]

end PolicyEntry

namespace Profile

open PolicyEntry

/-! ## One entry -/

theorem register_of_refused {p : Profile} {r : Rule} {err : ProfileError} (h : Refused p r.name err) :
    p.register r = .error err := by
  cases h with
  | blank h => simp [register, Text.trim_eq_empty_iff.mp h]
  | taken h hmem =>
    have hblank : ¬ Text.isBlankText r.name = true := mt Text.trim_eq_empty_iff.mpr h
    simp [register, hblank, hmem]

/-- A sound entry is taken into the profile, and the others follow. -/
theorem extend_cons_of_sound {p : Profile} {e : PolicyEntry} (h : e.Sound p.names) :
    ∃ q : Profile, q.names = p.names ++ [e.name] ∧ ∀ es, p.extend (e :: es) = q.extend es := by
  obtain ⟨c, hc⟩ := exists_compile_of_readable h.readable
  have hname : c.toRule.name = e.name := name_of_compiled ⟨c, hc, rfl⟩
  rcases p.register_cases c.toRule with ⟨-, -, hregister⟩ | ⟨err, hrefused, -⟩
  · exact ⟨⟨p.rules ++ [c.toRule]⟩, by simp [names, hname], fun es => by simp [extend, hc, hregister]⟩
  · rw [hname] at hrefused
    cases hrefused with
    | blank hblank => exact absurd hblank h.named
    | taken _ hmem => exact absurd (contains_iff.mp hmem) h.fresh

/-- An entry with which something is wrong ends the compilation, whatever follows it. -/
theorem extend_cons_of_offends {p : Profile} {e : PolicyEntry} {err : ProfileError} (h : e.Offends p.names err)
    (es : List PolicyEntry) : p.extend (e :: es) = .error err := by
  have hregister : e.Readable → Refused p e.name err → p.extend (e :: es) = .error err := by
    intro hreadable hrefused
    obtain ⟨c, hc⟩ := exists_compile_of_readable hreadable
    rw [← name_of_compiled ⟨c, hc, rfl⟩] at hrefused
    simp [extend, hc, register_of_refused hrefused]
  cases h with
  | selector h => simp [extend, compile, h]
  | pattern selector demand h => simp [extend, compile, selector, family, demand, h, Except.map]
  | blank readable h => exact hregister readable (.blank h)
  | taken readable named h => exact hregister readable (.taken named (contains_iff.mpr h))

/-! ## All entries -/

/-- Nothing is wrong with any entry, given the names that are taken at first; every entry takes its name. -/
def SoundFrom (taken : List String) (es : List PolicyEntry) : Prop :=
  ∀ before e after, es = before ++ e :: after → e.Sound (taken ++ before.map (·.name))

theorem soundFrom_cons_iff {taken : List String} {e : PolicyEntry} {es : List PolicyEntry} :
    SoundFrom taken (e :: es) ↔ e.Sound taken ∧ SoundFrom (taken ++ [e.name]) es := by
  constructor
  · intro h
    refine ⟨by simpa using h [] e es rfl, ?_⟩
    intro before d after hes
    have hd := h (e :: before) d after (by rw [hes, List.cons_append])
    rwa [List.map_cons, List.append_cons] at hd
  · rintro ⟨hfirst, hrest⟩ before d after hes
    cases before with
    | nil =>
      cases hes
      simpa using hfirst
    | cons b before =>
      cases hes
      rw [List.map_cons, List.append_cons]
      exact hrest before d after rfl

/-- Entries that are sound one after the other are readable entries with distinct names that are neither blank nor
taken at first. -/
theorem soundFrom_iff {taken : List String} {es : List PolicyEntry} :
    SoundFrom taken es ↔
      (∀ e ∈ es, e.Readable ∧ Text.trim e.name ≠ "" ∧ e.name ∉ taken) ∧ (es.map (·.name)).Nodup := by
  induction es generalizing taken with
  | nil => simp [SoundFrom]
  | cons e es ih =>
    rw [soundFrom_cons_iff, ih, List.map_cons, List.nodup_cons]
    constructor
    · rintro ⟨⟨hreadable, hnamed, hfresh⟩, hrest, hnodup⟩
      refine ⟨?_, ?_, hnodup⟩
      · intro d hd
        rcases List.mem_cons.mp hd with rfl | hd
        · exact ⟨hreadable, hnamed, hfresh⟩
        · obtain ⟨hdreadable, hdnamed, hdfresh⟩ := hrest d hd
          exact ⟨hdreadable, hdnamed, fun hmem => hdfresh (List.mem_append_left _ hmem)⟩
      · intro hmem
        obtain ⟨d, hd, hname⟩ := List.mem_map.mp hmem
        exact (hrest d hd).2.2 (by simp [hname])
    · rintro ⟨hall, hname, hnodup⟩
      obtain ⟨hreadable, hnamed, hfresh⟩ := hall e List.mem_cons_self
      refine ⟨⟨hreadable, hnamed, hfresh⟩, ?_, hnodup⟩
      intro d hd
      obtain ⟨hdreadable, hdnamed, hdfresh⟩ := hall d (List.mem_cons_of_mem e hd)
      have hne : d.name ≠ e.name := fun heq => hname (heq ▸ List.mem_map_of_mem hd)
      exact ⟨hdreadable, hdnamed, by simp [hdfresh, hne]⟩

theorem soundFrom_perm {es es' : List PolicyEntry} (h : es'.Perm es) : SoundFrom [] es' ↔ SoundFrom [] es := by
  rw [soundFrom_iff, soundFrom_iff, (h.map (·.name)).nodup_iff]
  simp only [h.mem_iff]

/-- All entries are sound, or there is a first one with which something is wrong. -/
theorem soundFrom_or_first (taken : List String) (es : List PolicyEntry) :
    SoundFrom taken es ∨
      ∃ before e after err, es = before ++ e :: after ∧ SoundFrom taken before ∧
        e.Offends (taken ++ before.map (·.name)) err := by
  induction es generalizing taken with
  | nil => exact .inl fun before e after h => by simp at h
  | cons e es ih =>
    rcases e.sound_or_offends taken with hsound | ⟨err, hoffends⟩
    · rcases ih (taken ++ [e.name]) with hrest | ⟨before, d, after, err, rfl, hbefore, hoffends⟩
      · exact .inl (soundFrom_cons_iff.mpr ⟨hsound, hrest⟩)
      · right
        refine ⟨e :: before, d, after, err, rfl, soundFrom_cons_iff.mpr ⟨hsound, hbefore⟩, ?_⟩
        rwa [List.map_cons, List.append_cons]
    · exact .inr ⟨[], e, es, err, rfl, fun before d after h => by simp at h, by simpa using hoffends⟩

/-- Sound entries are all taken into the profile, and what follows them is compiled with their names taken. -/
theorem extend_append_of_sound {p : Profile} {before : List PolicyEntry} (h : SoundFrom p.names before) :
    ∃ q : Profile, q.names = p.names ++ before.map (·.name) ∧ ∀ es, p.extend (before ++ es) = q.extend es := by
  induction before generalizing p with
  | nil => exact ⟨p, by simp, fun es => rfl⟩
  | cons e before ih =>
    obtain ⟨hfirst, hrest⟩ := soundFrom_cons_iff.mp h
    obtain ⟨q, hq, hextend⟩ := extend_cons_of_sound hfirst
    rw [← hq] at hrest
    obtain ⟨q', hq', hextend'⟩ := ih hrest
    refine ⟨q', ?_, ?_⟩
    · rw [hq', hq, List.map_cons, ← List.append_cons]
    · intro es
      rw [List.cons_append, hextend, hextend']

/-! ## Whole policies -/

theorem exists_ofPolicy_of_sound {es : List PolicyEntry} (h : SoundFrom [] es) : ∃ p, ofPolicy es = .ok p := by
  obtain ⟨p, -, hp⟩ := extend_append_of_sound (p := empty) h
  have hall := hp []
  rw [List.append_nil] at hall
  exact ⟨p, hall⟩

theorem ofPolicy_of_first {before : List PolicyEntry} {e : PolicyEntry} {err : ProfileError}
    (hbefore : SoundFrom [] before) (h : e.Offends (before.map (·.name)) err) (after : List PolicyEntry) :
    ofPolicy (before ++ e :: after) = .error err := by
  obtain ⟨p, hnames, hp⟩ := extend_append_of_sound (p := empty) hbefore
  have hoffends : e.Offends p.names err := by
    rw [hnames]
    exact h
  rw [ofPolicy, hp, extend_cons_of_offends hoffends]

theorem exists_ofPolicy_iff {es : List PolicyEntry} : (∃ p, ofPolicy es = .ok p) ↔ SoundFrom [] es := by
  refine ⟨?_, exists_ofPolicy_of_sound⟩
  rintro ⟨p, hp⟩
  rcases soundFrom_or_first [] es with hsound | ⟨before, e, after, err, rfl, hbefore, hoffends⟩
  · exact hsound
  · rw [ofPolicy_of_first hbefore hoffends] at hp
    cases hp

/-- A policy fails with what is wrong with the first entry with which something is wrong. -/
theorem ofPolicy_eq_error_iff {es : List PolicyEntry} {err : ProfileError} :
    ofPolicy es = .error err ↔
      ∃ before e after, es = before ++ e :: after ∧ SoundFrom [] before ∧ e.Offends (before.map (·.name)) err := by
  constructor
  · intro h
    rcases soundFrom_or_first [] es with hsound | ⟨before, e, after, err', rfl, hbefore, hoffends⟩
    · obtain ⟨p, hp⟩ := exists_ofPolicy_of_sound hsound
      cases hp.symm.trans h
    · have hfirst := ofPolicy_of_first hbefore hoffends after
      cases hfirst.symm.trans h
      exact ⟨before, e, after, rfl, hbefore, hoffends⟩
  · rintro ⟨before, e, after, rfl, hbefore, hoffends⟩
    exact ofPolicy_of_first hbefore hoffends after

/-- Whatever calls are made, the names of a profile stay distinct and none is blank, its rules stand in the order of
their latest accepted registrations, a registration is refused exactly for a blank name or one that is taken and then
changes nothing, and a name is there exactly if it was accepted and not removed since. A policy gives the profile of its
entries in their order exactly if all of them are sound; otherwise it fails with what is wrong with the first that is
not. So the order of its entries does not decide whether it gives a profile. -/
theorem profiles_of_calls_and_policies (calls : List Call) (es : List PolicyEntry) :
    let p := after calls
    p.names.Nodup ∧ (∀ name ∈ p.names, Text.trim name ≠ "") ∧
    (∃ moments : List Nat, moments.Pairwise (· < ·) ∧ List.Forall₂ (LastAccepted calls) moments p.rules) ∧
    (∀ r, (p.perform (.register r)).1 = .ok () ↔ Text.trim r.name ≠ "" ∧ p.contains r.name = false) ∧
    (∀ r err, (p.perform (.register r)).1 = .error err →
      Refused p r.name err ∧ (p.perform (.register r)).2 = p) ∧
    (∀ name, p.contains name = true ↔
      ∃ i r, Accepted calls i r ∧ r.name = name ∧ ∀ j, i < j → calls[j]? ≠ some (.unregister name)) ∧
    (∀ q, ofPolicy es = .ok q → q.names = es.map (·.name) ∧ List.Forall₂ Compiled es q.rules) ∧
    ((∃ q, ofPolicy es = .ok q) ↔ ∀ before e after, es = before ++ e :: after → e.Sound (before.map (·.name))) ∧
    (∀ err, ofPolicy es = .error err ↔
      ∃ before e after, es = before ++ e :: after ∧
        (∀ earlier d later, before = earlier ++ d :: later → d.Sound (earlier.map (·.name))) ∧
        e.Offends (before.map (·.name)) err) ∧
    ∀ es' : List PolicyEntry, es'.Perm es → ((∃ q, ofPolicy es' = .ok q) ↔ ∃ q, ofPolicy es = .ok q) := by
  intro p
  refine ⟨nodup_names_after calls, fun _ => trim_ne_of_mem_names_after, rules_after_ordered calls, ?_,
    fun _ _ => perform_of_error, ?_, fun q hq => ⟨names_ofPolicy hq, compiled_ofPolicy hq⟩, exists_ofPolicy_iff,
    fun err => ofPolicy_eq_error_iff, ?_⟩
  · intro r
    rw [perform_register_ok_iff, ← contains_iff, Bool.not_eq_true]
  · intro name
    rw [contains_iff, mem_names_after_iff]
    constructor
    · rintro ⟨i, r, ⟨haccepted, hkept⟩, rfl⟩
      exact ⟨i, r, haccepted, rfl, hkept⟩
    · rintro ⟨i, r, haccepted, rfl, hkept⟩
      exact ⟨i, r, ⟨haccepted, hkept⟩, rfl⟩
  · intro es' h
    rw [exists_ofPolicy_iff, exists_ofPolicy_iff, soundFrom_perm h]

end Profile

end DocLint
