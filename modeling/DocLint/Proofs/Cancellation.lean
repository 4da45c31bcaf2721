import DocLint.Proofs.Run
import DocLint.Session
import Mathlib.Data.List.TakeWhile
import Mathlib.Logic.Relation

/-!
# Proofs: runs that are called off

What a run gives depends on its looks at the token (`CancellationToken::is_cancelled`) alone. If none of them says
stop, it gives the report of an undisturbed run. If one of them does, it gives nothing, and where rules are evaluated
one after the other, none is evaluated from there on. A token that was cancelled stays so, which makes every later run
end at its first look.
-/

namespace DocLint

/-! ## Looks -/

/-- The looks that a run of `n` rules may make. Where rules are evaluated one after the other, there is a look before
each of them until a look says stop. Where they are evaluated at once, there are looks before them in any order, and
some may be left out only if another one says stop. -/
def Looks (answers : Nat → Bool) (n : Nat) (made : Nat → Prop) : Mode → Prop
  | .sequential => ∀ k, made k ↔ k ≤ n ∧ ∀ j < k, answers j = false
  | .parallel => made 0 ∧ (∀ k, made k → k ≤ n ∧ (answers 0 = true → k = 0)) ∧
      ((∀ k ≤ n, made k) ∨ ∃ k, made k ∧ answers k = true)

theorem exists_first_stop {answers : Nat → Bool} {k : Nat} (h : answers k = true) :
    ∃ n ≤ k, answers n = true ∧ ∀ j < n, answers j = false := by
  have hex : ∃ n, answers n = true := ⟨k, h⟩
  refine ⟨Nat.find hex, Nat.find_min' hex h, Nat.find_spec hex, fun j hj => ?_⟩
  exact Bool.eq_false_iff.mpr (Nat.find_min hex hj)

/-- Some look that is made says stop if any look would. -/
theorem Looks.exists_stop_iff {answers : Nat → Bool} {n : Nat} {made : Nat → Prop} {mode : Mode}
    (h : Looks answers n made mode) :
    (∃ k, made k ∧ answers k = true) ↔ ∃ k ≤ n, answers k = true := by
  cases mode with
  | sequential =>
    constructor
    · rintro ⟨k, hk, hstop⟩
      exact ⟨k, ((h k).mp hk).1, hstop⟩
    · rintro ⟨k, hk, hstop⟩
      obtain ⟨m, hm, hfirst, hclear⟩ := exists_first_stop hstop
      exact ⟨m, (h m).mpr ⟨hm.trans hk, hclear⟩, hfirst⟩
  | parallel =>
    obtain ⟨-, hbound, hall | hsome⟩ := h
    · constructor
      · rintro ⟨k, hk, hstop⟩
        exact ⟨k, (hbound k hk).1, hstop⟩
      · rintro ⟨k, hk, hstop⟩
        exact ⟨k, hall k hk, hstop⟩
    · obtain ⟨k, hk, hstop⟩ := hsome
      exact ⟨fun _ => ⟨k, (hbound k hk).1, hstop⟩, fun _ => ⟨k, hk, hstop⟩⟩

/-- Every run makes some looks: those of a run that looks whenever it may. -/
theorem exists_looks (answers : Nat → Bool) (n : Nat) (mode : Mode) : ∃ made, Looks answers n made mode := by
  cases mode with
  | sequential => exact ⟨fun k => k ≤ n ∧ ∀ j < k, answers j = false, fun k => Iff.rfl⟩
  | parallel =>
    refine ⟨fun k => k ≤ n ∧ (answers 0 = true → k = 0), ⟨Nat.zero_le n, fun _ => rfl⟩, fun k hk => hk, ?_⟩
    by_cases hstart : answers 0 = true
    · exact .inr ⟨0, ⟨Nat.zero_le n, fun _ => rfl⟩, hstart⟩
    · exact .inl fun k hk => ⟨hk, fun h => absurd h hstart⟩

/-! ## One run -/

/-- One after the other, the rules before the first look that says stop are evaluated and no others. -/
theorem runSequential_of_stop {answers : Nat → Bool} {k n : Nat} {rs : List Rule} (hn : n < rs.length)
    (hclear : ∀ i < n, answers (k + i) = false) (hstop : answers (k + n) = true) (d : Document) :
    runSequential answers d k rs = ((rs.take n).map fun r => r.run d, true) := by
  induction rs generalizing k n with
  | nil => cases hn
  | cons r rs ih =>
    cases n with
    | zero => simp [runSequential, show answers k = true from hstop]
    | succ n =>
      have hfirst : answers k = false := hclear 0 (Nat.succ_pos n)
      have hrest : ∀ i < n, answers (k + 1 + i) = false := by
        intro i hi
        rw [Nat.add_right_comm]
        exact hclear (i + 1) (Nat.succ_lt_succ hi)
      rw [← Nat.add_assoc, Nat.add_right_comm] at hstop
      simp [runSequential, hfirst, ih (Nat.lt_of_succ_lt_succ hn) hrest hstop]

theorem none_mem_runParallel {answers : Nat → Bool} {k n : Nat} {rs : List Rule} (hn : n < rs.length)
    (hstop : answers (k + n) = true) (d : Document) : none ∈ runParallel answers d k rs := by
  have hlength : n < (runParallel answers d k rs).length := by simpa [runParallel] using hn
  have hget : (runParallel answers d k rs)[n] = none := by simp [runParallel, hstop]
  exact hget ▸ List.getElem_mem hlength

theorem mapM_of_none_mem {α : Type} {xs : List (Option α)} (h : none ∈ xs) : xs.mapM id = none := by
  induction xs with
  | nil => cases h
  | cons x xs ih =>
    cases x with
    | none => rfl
    | some a =>
      have hrest : none ∈ xs := by simpa using h
      simp [ih hrest]

/-- In either mode a run of which a look says stop collects nothing. -/
theorem collectWith_of_stop {answers : Nat → Bool} {p : Profile} {k : Nat} (hk : k ≤ p.size)
    (hstop : answers k = true) (mode : Mode) (d : Document) : collectWith answers mode p d = none := by
  obtain ⟨n, hn, hfirst, hclear⟩ := exists_first_stop hstop
  cases n with
  | zero => simp [collectWith, hfirst]
  | succ n =>
    have hstart : answers 0 = false := hclear 0 (Nat.succ_pos n)
    have hrule : n < p.rules.length := hn.trans hk
    have hlook : answers (1 + n) = true := by rwa [Nat.add_comm]
    have hbefore : ∀ i < n, answers (1 + i) = false := by
      intro i hi
      rw [Nat.add_comm]
      exact hclear (i + 1) (Nat.succ_lt_succ hi)
    cases mode with
    | sequential => simp [collectWith, hstart, runSequential_of_stop hrule hbefore hlook]
    | parallel => simp [collectWith, hstart, mapM_of_none_mem (none_mem_runParallel hrule hlook d)]

theorem lintWith_of_stop {answers : Nat → Bool} {p : Profile} {k : Nat} (hk : k ≤ p.size)
    (hstop : answers k = true) (mode : Mode) (o : Overrides) (d : Document) :
    lintWith answers mode p o d = none := by
  rw [lintWith, collectWith_of_stop hk hstop, Option.map_none]

theorem lintWith_of_clear {answers : Nat → Bool} {p : Profile} (h : ∀ k ≤ p.size, answers k = false)
    (mode : Mode) (o : Overrides) (d : Document) :
    lintWith answers mode p o d = lintWith undisturbed mode p o d := by
  rw [lintWith, lintWith, collectWith_of_clear h, collectWith_undisturbed]

/-- A run gives nothing, or else what an undisturbed run gives; which of the two, its looks say. -/
theorem lintWith_cases (answers : Nat → Bool) (mode : Mode) (p : Profile) (o : Overrides) (d : Document) :
    (∃ k ≤ p.size, answers k = true) ∧ lintWith answers mode p o d = none ∨
      (¬ ∃ k ≤ p.size, answers k = true) ∧
        lintWith answers mode p o d = lintWith undisturbed mode p o d := by
  by_cases h : ∃ k ≤ p.size, answers k = true
  · obtain ⟨k, hk, hstop⟩ := h
    exact .inl ⟨⟨k, hk, hstop⟩, lintWith_of_stop hk hstop mode o d⟩
  · have hclear : ∀ k ≤ p.size, answers k = false := by
      intro k hk
      exact Bool.eq_false_iff.mpr fun hstop => h ⟨k, hk, hstop⟩
    exact .inr ⟨h, lintWith_of_clear hclear mode o d⟩

namespace Cancelled

/-- The rules that count as evaluated are those before the first look that says stop. -/
theorem evaluated_of_stop {looks : Nat → Bool} {n : Nat} {rules : List Rule} (hn : n < rules.length)
    (hclear : ∀ j ≤ n, looks j = false) (hstop : looks (n + 1) = true) : evaluated looks rules = n := by
  have hrange : n < (List.range rules.length).length := by simpa using hn
  have hindex : (List.range rules.length).findIdx (fun k => !(!looks 0 && !looks (k + 1))) = n := by
    rw [List.findIdx_eq hrange]
    refine ⟨by simp [hstop], fun j hj => ?_⟩
    simp [hclear 0 (Nat.zero_le n), hclear (j + 1) hj]
  rw [evaluated, List.takeWhile_eq_take_findIdx_not, hindex, List.length_take]
  exact Nat.min_eq_left hrange.le

theorem evaluated_of_start {looks : Nat → Bool} (hstart : looks 0 = true) (rules : List Rule) :
    evaluated looks rules = 0 := by
  unfold evaluated
  rw [List.length_eq_zero_iff, List.takeWhile_eq_nil_iff]
  simp [hstart]

theorem evaluated_of_clear {looks : Nat → Bool} {rules : List Rule} (h : ∀ k ≤ rules.length, looks k = false) :
    evaluated looks rules = rules.length := by
  have hall : ∀ k ∈ List.range rules.length, (!looks 0 && !looks (k + 1)) = true := by
    intro k hk
    rw [h 0 (Nat.zero_le _), h (k + 1) (List.mem_range.mp hk)]
    rfl
  rw [evaluated, List.takeWhile_eq_self_iff.mpr hall, List.length_range]

/-- A run ends at its first look, or at the look after the rules that it evaluates, or it evaluates all rules. -/
theorem evaluated_cases (looks : Nat → Bool) (rules : List Rule) :
    looks 0 = true ∨ (∃ n, looks (n + 1) = true ∧ evaluated looks rules = n) ∨
      evaluated looks rules = rules.length := by
  by_cases hstop : ∃ k ≤ rules.length, looks k = true
  · obtain ⟨k, hk, hstop⟩ := hstop
    obtain ⟨n, hn, hfirst, hclear⟩ := exists_first_stop hstop
    cases n with
    | zero => exact .inl hfirst
    | succ n =>
      have hbefore : ∀ j ≤ n, looks j = false := fun j hj => hclear j (Nat.lt_succ_of_le hj)
      exact .inr (.inl ⟨n, hfirst, evaluated_of_stop (hn.trans hk) hbefore hfirst⟩)
  · have hclear : ∀ k ≤ rules.length, looks k = false := by
      intro k hk
      exact Bool.eq_false_iff.mpr fun h => hstop ⟨k, hk, h⟩
    exact .inr (.inr (evaluated_of_clear hclear))

theorem answers_eq_true_iff {c : Cancelled} {token : Token} {rules : List Rule} {d : Document} {k : Nat} :
    c.answers token rules d k = true ↔ token ∈ c ∨ ∃ r ∈ rules.take (k - 1), token ∈ r.cancels d.root := by
  simp [answers]

theorem mem_afterRun_of_mem {c : Cancelled} {token t : Token} {rules : List Rule} {d : Document} (h : t ∈ c) :
    t ∈ c.afterRun token rules d :=
  List.mem_append_right _ h

/-- A rule that would cancel the token of the run is evaluated, or else the token is cancelled before its turn. Either
way the token is cancelled after the run. -/
theorem mem_afterRun_iff {c : Cancelled} {token : Token} {rules : List Rule} {d : Document} :
    token ∈ c.afterRun token rules d ↔ token ∈ c ∨ ∃ r ∈ rules, token ∈ r.cancels d.root := by
  constructor
  · intro h
    rcases List.mem_append.mp h with hrun | hbefore
    · obtain ⟨r, hr, ht⟩ := List.mem_flatMap.mp hrun
      exact .inr ⟨r, List.mem_of_mem_take hr, ht⟩
    · exact .inl hbefore
  · rintro (hbefore | ⟨r, hr, ht⟩)
    · exact mem_afterRun_of_mem hbefore
    · rcases evaluated_cases (c.answers token rules d) rules with hstart | ⟨n, hstop, hn⟩ | hall
      · rcases answers_eq_true_iff.mp hstart with hbefore | ⟨s, hs, -⟩
        · exact mem_afterRun_of_mem hbefore
        · cases hs
      · rcases answers_eq_true_iff.mp hstop with hbefore | ⟨s, hs, hcancels⟩
        · exact mem_afterRun_of_mem hbefore
        · refine List.mem_append_left _ (List.mem_flatMap.mpr ⟨s, ?_, hcancels⟩)
          rwa [hn]
      · refine List.mem_append_left _ (List.mem_flatMap.mpr ⟨r, ?_, ht⟩)
        rwa [hall, List.take_length]

end Cancelled

/-! ## A token over time -/

/-- A flag that stays set. -/
def Latched (flag : Nat → Bool) : Prop :=
  ∀ t, flag t = true → flag (t + 1) = true

theorem Latched.of_le {flag : Nat → Bool} (h : Latched flag) {s t : Nat} (hs : flag s = true) (hst : s ≤ t) :
    flag t = true := by
  induction hst with
  | refl => exact hs
  | step _ ih => exact h _ ih

/-! ## Sessions -/

namespace Session

/-- An operation of a session, whatever its arguments and whether or not it succeeds. -/
inductive Step (s : Session) : Session → Prop where
  | addDocument (d : Document) : Step s (s.addDocument d)
  | configure (p : Profile) (o : Overrides) (mode : Mode) :
      Step s { s with profile := p, overrides := o, mode := mode }
  | cancel : Step s s.cancel
  | newToken : Step s s.newToken
  | collect (number : Nat) : Step s (s.collect number).2
  | lint (number : Nat) : Step s (s.lint number).2
  | reaggregate : Step s s.reaggregate.2
  | batch (ds : List Document) : Step s (s.batch ds).2

theorem isCancelled_iff {s : Session} : s.isCancelled = true ↔ s.token ∈ s.cancelled :=
  List.contains_iff_mem

theorem mem_cancelled_foldl {s : Session} {t : Token} (h : t ∈ s.cancelled) (ds : List Document) :
    t ∈ (ds.foldl afterRun s).cancelled := by
  induction ds generalizing s with
  | nil => exact h
  | cons d ds ih => exact ih (Cancelled.mem_afterRun_of_mem h)

theorem mem_cancelled_collect {s : Session} {t : Token} (h : t ∈ s.cancelled) (number : Nat) :
    t ∈ (s.collect number).2.cancelled := by
  unfold collect
  split
  · exact h
  · split <;> exact Cancelled.mem_afterRun_of_mem h

theorem collect_snd {s : Session} {number : Nat} {d : Document} (hd : s.documents[number]? = some d) :
    (s.collect number).2 = s.afterRun d := by
  unfold collect
  simp only [hd]
  split <;> rfl

/-- To report changes nothing in a session that to collect does not change, but for the last report. -/
theorem exists_lint_snd (s : Session) (number : Nat) :
    ∃ last, (s.lint number).2 = { (s.collect number).2 with last := last } := by
  unfold lint
  split
  · case h_1 hcollect =>
    rw [hcollect]
    exact ⟨_, rfl⟩
  · case h_2 hcollect =>
    rw [hcollect]
    exact ⟨_, rfl⟩

/-- No operation takes back that a token was cancelled. -/
theorem Step.mem_cancelled {s s' : Session} {t : Token} (hstep : Step s s') (h : t ∈ s.cancelled) :
    t ∈ s'.cancelled := by
  cases hstep with
  | addDocument d => exact h
  | configure p o mode => exact h
  | cancel => exact List.mem_cons_of_mem _ h
  | newToken => exact h
  | collect number => exact mem_cancelled_collect h number
  | lint number =>
    obtain ⟨last, hlint⟩ := exists_lint_snd s number
    rw [hlint]
    exact mem_cancelled_collect h number
  | reaggregate =>
    unfold Session.reaggregate
    split <;> exact h
  | batch ds => exact mem_cancelled_foldl h ds

/-- A token that was cancelled stays so, whatever operations follow. -/
theorem mem_cancelled_of_steps {s s' : Session} {t : Token} (hsteps : Relation.ReflTransGen Step s s')
    (h : t ∈ s.cancelled) : t ∈ s'.cancelled := by
  induction hsteps with
  | refl => exact h
  | tail _ hstep ih => exact hstep.mem_cancelled ih

/-- What a session tells about a document is what a run of its profile gives. -/
theorem lint_eq_lintWith {s : Session} {number : Nat} {d : Document} (hd : s.documents[number]? = some d) :
    let looks := s.cancelled.answers s.token s.profile.rules d
    (s.lint number).1 = match lintWith looks s.mode s.profile s.overrides d with
      | none => .error .cancelled
      | some report => .ok report := by
  unfold lint collect lintWith
  simp only [hd, collectDocument]
  cases collectWith (s.cancelled.answers s.token s.profile.rules d) s.mode s.profile d <;> rfl

/-- Once its token is cancelled, a session has no report of any document. -/
theorem runs_of_cancelled {s : Session} (h : s.token ∈ s.cancelled) :
    (∀ number < s.documents.length, (s.collect number).1 = .error .cancelled ∧ (s.lint number).1 = .error .cancelled) ∧
      ∀ ds, (s.batch ds).1 = ds.map fun _ => none := by
  have hlook : ∀ d k, s.cancelled.answers s.token s.profile.rules d k = true := fun d k =>
    Cancelled.answers_eq_true_iff.mpr (.inl h)
  refine ⟨fun number hnumber => ?_, fun ds => List.ext_getElem? fun i => ?_⟩
  · have hd := List.getElem?_eq_getElem hnumber
    refine ⟨?_, ?_⟩
    · simp [collect, hd, collectDocument, collectWith, hlook]
    · rw [lint_eq_lintWith hd, lintWith_of_stop (Nat.zero_le _) (hlook _ 0)]
  · rw [batch, lintBatch_getElem?, List.getElem?_map]
    cases hd : ds[i]? with
    | none => rfl
    | some d =>
      have hstart : s.looks ds i 0 = true := by
        simp only [looks, hd]
        exact Cancelled.answers_eq_true_iff.mpr (.inl (mem_cancelled_foldl h _))
      simp only [Option.map_some, lintWith_of_stop (Nat.zero_le _) hstart]

/-- Where rules are evaluated one after the other, a run is called off if its token was cancelled before it or is
cancelled by a rule, unless this is the last one. The last rule calls off later runs alone. -/
theorem lint_cancelled_iff {s : Session} {number : Nat} {d : Document} (hd : s.documents[number]? = some d) :
    (s.lint number).1 = .error .cancelled ↔
      s.token ∈ s.cancelled ∨ ∃ r ∈ s.profile.rules.dropLast, s.token ∈ r.cancels d.root := by
  have hstop : (∃ k ≤ s.profile.size, s.cancelled.answers s.token s.profile.rules d k = true) ↔
      s.token ∈ s.cancelled ∨ ∃ r ∈ s.profile.rules.dropLast, s.token ∈ r.cancels d.root := by
    rw [List.dropLast_eq_take]
    constructor
    · rintro ⟨k, hk, hlook⟩
      rcases Cancelled.answers_eq_true_iff.mp hlook with hbefore | ⟨r, hr, ht⟩
      · exact .inl hbefore
      · exact .inr ⟨r, List.take_subset_take_left _ (Nat.sub_le_sub_right hk 1) hr, ht⟩
    · intro h
      exact ⟨_, Nat.le_refl _, Cancelled.answers_eq_true_iff.mpr h⟩
  rw [lint_eq_lintWith hd, ← hstop]
  rcases lintWith_cases (s.cancelled.answers s.token s.profile.rules d) s.mode s.profile s.overrides d with
    ⟨hsome, hrun⟩ | ⟨hnone, hrun⟩
  · rw [hrun]
    exact iff_of_true rfl hsome
  · rw [hrun, lintWith_undisturbed]
    exact iff_of_false (by simp) hnone

end Session

/-- A run is called off if some look that it makes says stop, and gives the report of an undisturbed run if none does;
there is nothing in between. The rules may do whatever they like, and a look may see whatever it likes. No rule after
the first look that says stop is evaluated one after the other, whatever rules stand there. In a batch this holds of
each document on its own. Once a token is set, no run that looks at it later gives a report, and no operation of a
session unsets it. A rule calls off its own run unless it is the last one, and in any case the runs after it. -/
theorem lint_called_off_or_whole :
    (∀ (p : Profile) (o : Overrides) (mode : Mode) (d : Document), ∃ full,
      lintWith undisturbed mode p o d = some full ∧
      ∀ answers, (∃ made, Looks answers p.size made mode) ∧ ∀ made, Looks answers p.size made mode →
        (lintWith answers mode p o d = none ↔ ∃ k, made k ∧ answers k = true) ∧
        (lintWith answers mode p o d = some full ↔ ∀ k, made k → answers k = false)) ∧
    (∀ (p : Profile) (d : Document) (answers : Nat → Bool),
      (answers 0 = true → Cancelled.evaluated answers p.rules = 0) ∧
      ∀ n < p.size, (∀ j ≤ n, answers j = false) → answers (n + 1) = true →
        Cancelled.evaluated answers p.rules = n ∧
        ∀ rest, rest ≠ [] → runSequential answers d 1 (p.rules.take n ++ rest) =
          ((p.rules.take n).map fun r => r.run d, true)) ∧
    (∀ answers mode (p : Profile) (o : Overrides) (ds : List Document),
      (lintBatch answers mode p o ds).length = ds.length ∧
      ∀ (i : Nat) (d : Document), ds[i]? = some d → (lintBatch answers mode p o ds)[i]? = some none ∨
        (lintBatch answers mode p o ds)[i]? = some (lintWith undisturbed mode p o d)) ∧
    (∀ flag, Latched flag → ∀ t, flag t = true →
      ∀ (time : Nat → Nat → Nat) mode (p : Profile) (o : Overrides) (ds : List Document) (i : Nat) (d : Document),
        ds[i]? = some d → (∃ k ≤ p.size, t ≤ time i k) →
        (lintBatch (fun i k => flag (time i k)) mode p o ds)[i]? = some none) ∧
    (∀ s s' : Session, s.isCancelled = true → Relation.ReflTransGen Session.Step s s' → s'.token = s.token →
      (∀ number < s'.documents.length,
        (s'.collect number).1 = .error .cancelled ∧ (s'.lint number).1 = .error .cancelled) ∧
      ∀ ds, (s'.batch ds).1 = ds.map fun _ => none) ∧
    ∀ s : Session, s.mode = .sequential → ∀ (number : Nat) (d : Document), s.documents[number]? = some d →
      ((s.lint number).1 = .error .cancelled ↔
        s.isCancelled = true ∨ ∃ r ∈ s.profile.rules.dropLast, s.token ∈ r.cancels d.root) ∧
      ((s.lint number).2.isCancelled = true ↔
        s.isCancelled = true ∨ ∃ r ∈ s.profile.rules, s.token ∈ r.cancels d.root) := by
  refine ⟨?run, ?sequential, ?batch, ?flag, ?session, ?rule⟩
  case run =>
    intro p o mode d
    refine ⟨_, lintWith_undisturbed mode p o d, fun answers => ⟨exists_looks answers p.size mode, ?_⟩⟩
    intro made hmade
    have hmade := hmade.exists_stop_iff
    have hnone : (∀ k, made k → answers k = false) ↔ ¬ ∃ k, made k ∧ answers k = true := by simp
    rw [hnone, hmade]
    rcases lintWith_cases answers mode p o d with ⟨hstop, hrun⟩ | ⟨hclear, hrun⟩
    · rw [hrun]
      exact ⟨iff_of_true rfl hstop, iff_of_false (by simp) (not_not_intro hstop)⟩
    · rw [hrun, lintWith_undisturbed]
      exact ⟨iff_of_false (by simp) hclear, iff_of_true rfl hclear⟩
  case sequential =>
    intro p d answers
    refine ⟨fun hstart => Cancelled.evaluated_of_start hstart p.rules, fun n hn hclear hstop => ?_⟩
    refine ⟨Cancelled.evaluated_of_stop hn hclear hstop, fun rest hrest => ?_⟩
    have hlength : (p.rules.take n).length = n := List.length_take_of_le (Nat.le_of_lt hn)
    have hturn : n < (p.rules.take n ++ rest).length := by
      rw [List.length_append, hlength]
      exact Nat.lt_add_of_pos_right (List.length_pos_iff.mpr hrest)
    have hbefore : ∀ i < n, answers (1 + i) = false := fun i hi => hclear (1 + i) (by omega)
    rw [runSequential_of_stop hturn hbefore (by rwa [Nat.add_comm]), List.take_left' hlength]
  case batch =>
    intro answers mode p o ds
    refine ⟨List.length_mapIdx, fun i d hd => ?_⟩
    rw [lintBatch_getElem?, hd, Option.map_some]
    rcases lintWith_cases (answers i) mode p o d with ⟨-, hrun⟩ | ⟨-, hrun⟩
    · exact .inl (congrArg some hrun)
    · exact .inr (congrArg some hrun)
  case flag =>
    rintro flag hlatched t ht time mode p o ds i d hd ⟨k, hk, hlater⟩
    have hlook : flag (time i k) = true := hlatched.of_le ht hlater
    have hstop : lintWith (fun k => flag (time i k)) mode p o d = none := lintWith_of_stop hk hlook mode o d
    rw [lintBatch_getElem?, hd, Option.map_some, hstop]
  case session =>
    intro s s' hcancelled hsteps htoken
    have hmem := Session.mem_cancelled_of_steps hsteps (Session.isCancelled_iff.mp hcancelled)
    rw [← htoken] at hmem
    exact Session.runs_of_cancelled hmem
  case rule =>
    intro s _ number d hd
    rw [Session.isCancelled_iff, Session.isCancelled_iff]
    refine ⟨Session.lint_cancelled_iff hd, ?_⟩
    obtain ⟨last, hlint⟩ := Session.exists_lint_snd s number
    rw [hlint, Session.collect_snd hd]
    exact Cancelled.mem_afterRun_iff

/-- The second of three rules cancels the token. The run has no report, the two runs after it have none either, and the
third rule is not evaluated, so the token that it would cancel is not. -/
theorem lint_called_off_or_whole_midway :
    let rule (name : Char) (tokens : List Token) : Rule :=
      ⟨String.ofList [name], .error, String.ofList [], fun _ => .findings [], fun _ => tokens⟩
    let d := Document.ofTree (.scalar [] ⟨1, 1, 1, 4⟩ .null)
    let rules := [rule 'a' [], rule 'b' [0], rule 'c' [7]]
    let s : Session := { Session.start with documents := [d], profile := ⟨rules⟩, mode := .sequential }
    s.isCancelled = false ∧ (s.lint 0).1 = .error .cancelled ∧ (s.lint 0).2.isCancelled = true ∧
      (s.lint 0).2.cancelled = [0] ∧ Cancelled.evaluated (s.cancelled.answers 0 rules d) rules = 2 ∧
      ((s.lint 0).2.batch [d, d]).1 = [none, none] := by
  intro rule d rules s
  obtain ⟨-, hsequential, -, -, hlater, hrule⟩ := lint_called_off_or_whole
  obtain ⟨hlint, hafter⟩ := hrule s rfl 0 d rfl
  have hcancels : (0 : Token) ∈ (rule 'b' [0]).cancels d.root := List.mem_cons_self
  have hset := hafter.mpr (.inr ⟨rule 'b' [0], by simp [s, rules], hcancels⟩)
  refine ⟨rfl, hlint.mpr (.inr ⟨rule 'b' [0], by simp [s, rules], hcancels⟩), hset, ?_, ?_, ?_⟩
  · rfl
  · refine ((hsequential ⟨rules⟩ d (s.cancelled.answers 0 rules d)).2 2 ?_ ?_ rfl).1
    · decide
    · decide
  · exact (hlater _ _ hset .refl rfl).2 [d, d]

end DocLint
