import DocLint.Proofs.Profile
import DocLint.Proofs.Text.Blank
import Mathlib.Data.List.Induction

/-!
# Proofs: the history of a profile

A profile is changed by calls: a rule is registered, or the rule of a name is removed (`RuleRegistry::register` and
`RuleRegistry::unregister`). A registration may be refused, and then the profile stays as it is.

What a history leads to is told by the moments of its calls. A registration stands if it was accepted and its name
was not removed since. The rules of a profile are those of the standing registrations, in the order of their moments
(`exists_moments`), and everything else about reachable profiles follows.
-/

namespace DocLint

theorem Text.trim_eq_empty_iff {s : String} : trim s = "" ↔ isBlankText s = true := by
  rw [trim, ← String.ofList_nil, String.ofList_inj, trimChars_eq_nil_iff, isBlankText, List.all_eq_true]

namespace Profile

/-! ## One call -/

/-- Why a rule is not taken: its name is blank, or else it is taken. -/
inductive Refused (p : Profile) (name : String) : ProfileError → Prop where
  /-- It is blank. -/
  | blank (h : Text.trim name = "") : Refused p name .emptyName
  /-- It is not blank, but taken. -/
  | taken (h : Text.trim name ≠ "") (hmem : p.contains name = true) : Refused p name (.duplicateName name)

theorem register_cases (p : Profile) (r : Rule) :
    (Text.trim r.name ≠ "" ∧ r.name ∉ p.names ∧ p.register r = .ok ⟨p.rules ++ [r]⟩) ∨
      ∃ e, Refused p r.name e ∧ p.register r = .error e := by
  by_cases hblank : Text.isBlankText r.name = true
  · right
    refine ⟨.emptyName, .blank (Text.trim_eq_empty_iff.mpr hblank), ?_⟩
    simp [register, hblank]
  · have htrim : Text.trim r.name ≠ "" := mt Text.trim_eq_empty_iff.mp hblank
    by_cases hmem : p.contains r.name = true
    · right
      refine ⟨.duplicateName r.name, .taken htrim hmem, ?_⟩
      simp [register, hblank, hmem]
    · left
      refine ⟨htrim, mt contains_iff.mpr hmem, ?_⟩
      simp [register, hblank, hmem]

/-- A change that is asked of a profile. -/
inductive Call where
  /-- A rule is to be registered. -/
  | register (r : Rule)
  /-- The rule of a name is to be removed. -/
  | unregister (name : String)

/-- How a call ends and the profile that it leaves behind. -/
def perform (p : Profile) : Call → Except ProfileError Unit × Profile
  | .register r =>
    match p.register r with
    | .ok q => (.ok (), q)
    | .error e => (.error e, p)
  | .unregister name => (.ok (), p.unregister name)

/-- A registration puts the rule at the end, or it is refused and nothing changes. -/
theorem perform_register_cases (p : Profile) (r : Rule) :
    (Text.trim r.name ≠ "" ∧ r.name ∉ p.names ∧ p.perform (.register r) = (.ok (), ⟨p.rules ++ [r]⟩)) ∨
      ∃ e, Refused p r.name e ∧ p.perform (.register r) = (.error e, p) := by
  rcases p.register_cases r with ⟨htrim, hfresh, h⟩ | ⟨e, hrefused, h⟩
  · exact .inl ⟨htrim, hfresh, by simp [perform, h]⟩
  · exact .inr ⟨e, hrefused, by simp [perform, h]⟩

theorem perform_register_ok_iff {p : Profile} {r : Rule} :
    (p.perform (.register r)).1 = .ok () ↔ Text.trim r.name ≠ "" ∧ r.name ∉ p.names := by
  rcases p.perform_register_cases r with ⟨htrim, hfresh, h⟩ | ⟨e, hrefused, h⟩
  · simp [h, htrim, hfresh]
  · rw [h]
    constructor
    · intro hok
      cases hok
    · rintro ⟨htrim, hfresh⟩
      cases hrefused with
      | blank hblank => exact absurd hblank htrim
      | taken _ hmem => exact absurd (contains_iff.mp hmem) hfresh

theorem perform_of_ok {p : Profile} {r : Rule} (h : (p.perform (.register r)).1 = .ok ()) :
    (p.perform (.register r)).2 = ⟨p.rules ++ [r]⟩ := by
  rcases p.perform_register_cases r with ⟨-, -, hp⟩ | ⟨e, -, hp⟩
  · rw [hp]
  · rw [hp] at h
    cases h

theorem perform_of_error {p : Profile} {r : Rule} {e : ProfileError}
    (h : (p.perform (.register r)).1 = .error e) : Refused p r.name e ∧ (p.perform (.register r)).2 = p := by
  rcases p.perform_register_cases r with ⟨-, -, hp⟩ | ⟨e', hrefused, hp⟩
  · rw [hp] at h
    cases h
  · rw [hp] at h ⊢
    cases h
    exact ⟨hrefused, rfl⟩

/-! ## Histories -/

/-- The profile after some calls, the first of which finds no rules. -/
def after (calls : List Call) : Profile :=
  calls.foldl (fun p c => (p.perform c).2) empty

theorem after_concat (calls : List Call) (c : Call) : after (calls ++ [c]) = ((after calls).perform c).2 := by
  rw [after, List.foldl_append]
  rfl

/-- The call of moment `i` registers the rule, and it is accepted. -/
def Accepted (calls : List Call) (i : Nat) (r : Rule) : Prop :=
  calls[i]? = some (.register r) ∧ ((after (calls.take i)).perform (.register r)).1 = .ok ()

/-- The registration of moment `i` was accepted, and no later call removes its name. -/
def Standing (calls : List Call) (i : Nat) (r : Rule) : Prop :=
  Accepted calls i r ∧ ∀ j, i < j → calls[j]? ≠ some (.unregister r.name)

theorem Accepted.lt_length {calls : List Call} {i : Nat} {r : Rule} (h : Accepted calls i r) : i < calls.length :=
  (List.getElem?_eq_some_iff.mp h.1).1

/-- Whether a registration is accepted does not depend on what comes after it. -/
theorem accepted_append_iff {calls : List Call} {i : Nat} {r : Rule} (hi : i < calls.length) (more : List Call) :
    Accepted (calls ++ more) i r ↔ Accepted calls i r := by
  unfold Accepted
  rw [List.getElem?_append_left hi, List.take_append_of_le_length (Nat.le_of_lt hi)]

/-- A registration stands after one more call if it stood before and the call does not remove it, or if it is that
call. -/
theorem standing_concat_iff {calls : List Call} {c : Call} {i : Nat} {r : Rule} :
    Standing (calls ++ [c]) i r ↔
      (Standing calls i r ∧ c ≠ .unregister r.name) ∨
        (i = calls.length ∧ c = .register r ∧ ((after calls).perform c).1 = .ok ()) := by
  constructor
  · rintro ⟨haccepted, hkept⟩
    have hlt := haccepted.lt_length
    rw [List.length_append, List.length_singleton] at hlt
    by_cases hi : i < calls.length
    · left
      refine ⟨⟨(accepted_append_iff hi _).mp haccepted, ?_⟩, ?_⟩
      · intro j hj
        by_cases hjl : j < calls.length
        · have h := hkept j hj
          rwa [List.getElem?_append_left hjl] at h
        · rw [List.getElem?_eq_none (by omega)]
          simp
      · have h := hkept calls.length hi
        rintro rfl
        exact h List.getElem?_concat_length
    · right
      obtain rfl : i = calls.length := by omega
      have hc : c = .register r := by
        have h := haccepted.1
        rw [List.getElem?_concat_length] at h
        exact Option.some.inj h
      refine ⟨rfl, hc, ?_⟩
      have h := haccepted.2
      rwa [List.take_left, ← hc] at h
  · rintro (⟨⟨haccepted, hkept⟩, hc⟩ | ⟨rfl, rfl, hok⟩)
    · have hi := haccepted.lt_length
      refine ⟨(accepted_append_iff hi _).mpr haccepted, ?_⟩
      intro j hj
      rcases Nat.lt_trichotomy j calls.length with hjl | rfl | hjl
      · rw [List.getElem?_append_left hjl]
        exact hkept j hj
      · rw [List.getElem?_concat_length]
        exact fun h => hc (Option.some.inj h)
      · rw [List.getElem?_eq_none (by simp; omega)]
        simp
    · refine ⟨⟨List.getElem?_concat_length, ?_⟩, ?_⟩
      · rwa [List.take_left]
      · intro j hj
        rw [List.getElem?_eq_none (by simp; omega)]
        simp

/-! ## The rules of a history -/

/-- The entries are the standing registrations with their moments, in order. -/
structure Moments (calls : List Call) (entries : List (Nat × Rule)) : Prop where
  /-- They are the rules of the profile. -/
  rules : entries.map (·.2) = (after calls).rules
  /-- Each was registered after the one before it. -/
  ordered : (entries.map (·.1)).Pairwise (· < ·)
  /-- They stand, and no other registration does. -/
  standing : ∀ i r, (i, r) ∈ entries ↔ Standing calls i r

theorem Moments.accept {calls : List Call} {entries : List (Nat × Rule)} {r : Rule} (h : Moments calls entries)
    (hok : ((after calls).perform (.register r)).1 = .ok ()) :
    Moments (calls ++ [.register r]) (entries ++ [(calls.length, r)]) := by
  refine ⟨?_, ?_, ?_⟩
  · rw [after_concat, perform_of_ok hok, List.map_append, h.rules]
    rfl
  · rw [List.map_append]
    refine List.pairwise_append.mpr ⟨h.ordered, List.pairwise_singleton _ _, ?_⟩
    intro i hi j hj
    obtain ⟨⟨k, s⟩, hk, rfl⟩ := List.mem_map.mp hi
    obtain rfl : j = calls.length := by simpa using hj
    exact ((h.standing k s).mp hk).1.lt_length
  · intro i s
    rw [standing_concat_iff, List.mem_append, h.standing]
    constructor
    · rintro (hs | hs)
      · exact .inl ⟨hs, by simp⟩
      · cases List.mem_singleton.mp hs
        exact .inr ⟨rfl, rfl, hok⟩
    · rintro (⟨hs, -⟩ | ⟨rfl, hc, -⟩)
      · exact .inl hs
      · cases hc
        exact .inr (List.mem_singleton_self _)

theorem Moments.refuse {calls : List Call} {entries : List (Nat × Rule)} {r : Rule} (h : Moments calls entries)
    {e : ProfileError} (he : ((after calls).perform (.register r)).1 = .error e) :
    Moments (calls ++ [.register r]) entries := by
  refine ⟨?_, h.ordered, ?_⟩
  · rw [after_concat, (perform_of_error he).2, h.rules]
  · intro i s
    rw [standing_concat_iff, h.standing]
    constructor
    · intro hs
      exact .inl ⟨hs, by simp⟩
    · rintro (⟨hs, -⟩ | ⟨-, -, hok⟩)
      · exact hs
      · rw [he] at hok
        cases hok

theorem Moments.remove {calls : List Call} {entries : List (Nat × Rule)} (h : Moments calls entries)
    (name : String) : Moments (calls ++ [.unregister name]) (entries.filter fun e => e.2.name ≠ name) := by
  refine ⟨?_, ?_, ?_⟩
  · rw [after_concat]
    show _ = (after calls).rules.filter _
    rw [← h.rules, List.filter_map]
    rfl
  · exact h.ordered.sublist (List.filter_sublist.map _)
  · intro i s
    rw [standing_concat_iff, List.mem_filter, h.standing]
    have hname : (Call.unregister name ≠ .unregister s.name) ↔ s.name ≠ name := by simp [eq_comm]
    simp [hname]

/-- The rules of every history are those of its standing registrations, in the order in which they were registered. -/
theorem exists_moments (calls : List Call) : ∃ entries, Moments calls entries := by
  induction calls using List.reverseRecOn with
  | nil => exact ⟨[], rfl, List.Pairwise.nil, by simp [Standing, Accepted]⟩
  | append_singleton calls c ih =>
    obtain ⟨entries, h⟩ := ih
    cases c with
    | register r =>
      cases hok : ((after calls).perform (.register r)).1 with
      | ok u => exact ⟨_, h.accept hok⟩
      | error e => exact ⟨_, h.refuse hok⟩
    | unregister name => exact ⟨_, h.remove name⟩

theorem mem_rules_after_iff {calls : List Call} {r : Rule} : r ∈ (after calls).rules ↔ ∃ i, Standing calls i r := by
  obtain ⟨entries, h⟩ := exists_moments calls
  rw [← h.rules, List.mem_map]
  constructor
  · rintro ⟨⟨i, s⟩, hs, rfl⟩
    exact ⟨i, (h.standing i s).mp hs⟩
  · rintro ⟨i, hi⟩
    exact ⟨(i, r), (h.standing i r).mpr hi, rfl⟩

theorem mem_names_after_iff {calls : List Call} {name : String} :
    name ∈ (after calls).names ↔ ∃ i r, Standing calls i r ∧ r.name = name := by
  rw [names, List.mem_map]
  constructor
  · rintro ⟨r, hr, rfl⟩
    obtain ⟨i, hi⟩ := mem_rules_after_iff.mp hr
    exact ⟨i, r, hi, rfl⟩
  · rintro ⟨i, r, hi, rfl⟩
    exact ⟨r, mem_rules_after_iff.mpr ⟨i, hi⟩, rfl⟩

/-- No registration of its name is accepted after one that stands, so that one is the latest. -/
theorem Standing.latest {calls : List Call} {i j : Nat} {r s : Rule} (h : Standing calls i r) (hij : i < j)
    (hs : Accepted calls j s) : s.name ≠ r.name := by
  intro hname
  have hj := hs.lt_length
  have hi : i < (calls.take j).length := by
    rw [List.length_take]
    omega
  have hthen : Standing (calls.take j) i r := by
    refine ⟨?_, ?_⟩
    · rw [← accepted_append_iff hi (calls.drop j), List.take_append_drop]
      exact h.1
    · intro k hk
      by_cases hkj : k < j
      · rw [List.getElem?_take_of_lt hkj]
        exact h.2 k hk
      · rw [List.getElem?_eq_none (by rw [List.length_take]; omega)]
        simp
  have hmem : s.name ∈ (after (calls.take j)).names := mem_names_after_iff.mpr ⟨i, r, hthen, hname.symm⟩
  exact (perform_register_ok_iff.mp hs.2).2 hmem

/-- The call of moment `i` is the latest one that registers a rule of this name and is accepted. -/
def LastAccepted (calls : List Call) (i : Nat) (r : Rule) : Prop :=
  Accepted calls i r ∧ ∀ j s, i < j → Accepted calls j s → s.name ≠ r.name

/-- Rules stand in the order of their latest accepted registrations. -/
theorem rules_after_ordered (calls : List Call) :
    ∃ moments : List Nat, moments.Pairwise (· < ·) ∧
      List.Forall₂ (LastAccepted calls) moments (after calls).rules := by
  obtain ⟨entries, h⟩ := exists_moments calls
  refine ⟨entries.map (·.1), h.ordered, ?_⟩
  rw [← h.rules, List.forall₂_map_left_iff, List.forall₂_map_right_iff, List.forall₂_same]
  intro e he
  have hstanding := (h.standing e.1 e.2).mp he
  exact ⟨hstanding.1, fun j s hij hs => hstanding.latest hij hs⟩

/-- Two standing registrations of one name are the same one. -/
theorem Standing.moment_eq {calls : List Call} {i j : Nat} {r s : Rule} (hr : Standing calls i r)
    (hs : Standing calls j s) (hname : r.name = s.name) : i = j := by
  rcases Nat.lt_trichotomy i j with hij | hij | hij
  · exact absurd hname.symm (hr.latest hij hs.1)
  · exact hij
  · exact absurd hname (hs.latest hij hr.1)

theorem nodup_names_after (calls : List Call) : (after calls).names.Nodup := by
  obtain ⟨entries, h⟩ := exists_moments calls
  rw [names, ← h.rules, List.map_map]
  have hmoments : entries.Pairwise fun a b => a.1 < b.1 := List.pairwise_map.mp h.ordered
  refine List.pairwise_map.mpr (hmoments.imp_of_mem ?_)
  intro a b ha hb hab hname
  have heq := ((h.standing a.1 a.2).mp ha).moment_eq ((h.standing b.1 b.2).mp hb) hname
  omega

theorem trim_ne_of_mem_names_after {calls : List Call} {name : String} (h : name ∈ (after calls).names) :
    Text.trim name ≠ "" := by
  obtain ⟨i, r, hstanding, rfl⟩ := mem_names_after_iff.mp h
  exact (perform_register_ok_iff.mp hstanding.1.2).1

end Profile

end DocLint
