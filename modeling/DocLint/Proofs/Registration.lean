import DocLint.Proofs.Run
import DocLint.Report.Text

/-!
# Proofs: the order of registration

Rules with distinct names that are not blank can be registered in any order. An undisturbed run (`Evaluator::collect`)
gathers what they contribute, and its report depends on the findings alone: it shows neither the order of registration
nor the mode of the run, whatever the rules do.
-/

namespace DocLint

namespace Profile

/-- Registers rules one after the other. -/
def registerAll (p : Profile) (rs : List Rule) : Except ProfileError Profile :=
  rs.foldlM register p

theorem register_of_fresh {p : Profile} {r : Rule} (hblank : Text.isBlankText r.name = false)
    (hfresh : r.name ∉ p.names) : p.register r = .ok ⟨p.rules ++ [r]⟩ := by
  have hcontains : p.contains r.name = false := Bool.eq_false_iff.mpr (mt contains_iff.mp hfresh)
  simp [register, hblank, hcontains]

/-- Rules whose names are not blank and distinct are all registered, in their order. -/
theorem registerAll_of_distinct {p : Profile} {rs : List Rule}
    (hblank : ∀ r ∈ rs, Text.isBlankText r.name = false) (hnames : (p.names ++ rs.map (·.name)).Nodup) :
    p.registerAll rs = .ok ⟨p.rules ++ rs⟩ := by
  induction rs generalizing p with
  | nil =>
    rw [List.append_nil]
    rfl
  | cons r rs ih =>
    have hfresh : r.name ∉ p.names := fun hmem =>
      (List.nodup_append.mp hnames).2.2 r.name hmem r.name (by simp) rfl
    have hregister := register_of_fresh (hblank r (by simp)) hfresh
    have hrest : (⟨p.rules ++ [r]⟩ : Profile).registerAll rs = .ok ⟨p.rules ++ [r] ++ rs⟩ := by
      apply ih
      · intro s hs
        exact hblank s (List.mem_cons_of_mem r hs)
      · simpa [names] using hnames
    have hrules : p.rules ++ r :: rs = p.rules ++ [r] ++ rs := List.append_cons ..
    unfold registerAll at *
    rw [List.foldlM_cons, hregister, hrules]
    exact hrest

end Profile

/-- The same rules in another order give the same report. -/
theorem aggregate_of_perm {p q : Profile} (h : q.rules.Perm p.rules) (o : Overrides) (d : Document) :
    Report.aggregate (q.rules.flatMap fun r => r.run d) o q.size =
      Report.aggregate (p.rules.flatMap fun r => r.run d) o p.size := by
  have hsize : q.size = p.size := h.length_eq
  rw [hsize]
  exact Report.aggregate_congr (fun f => (h.flatMap_right _).mem_iff) o p.size

/-- Rules with distinct names that are not blank can be registered in any order, and an undisturbed run of them gives
the same report and the same text for every order and in either mode. The rules may do whatever they like. -/
theorem lint_ignores_registration {rs ss : List Rule} (hblank : ∀ r ∈ rs, Text.isBlankText r.name = false)
    (hnames : (rs.map (·.name)).Nodup) (hperm : ss.Perm rs) (o : Overrides) (d : Document) :
    ∃ p q, Profile.empty.registerAll rs = .ok p ∧ Profile.empty.registerAll ss = .ok q ∧
      ∀ mode mode', ∃ report report', lintWith undisturbed mode p o d = some report ∧
        lintWith undisturbed mode' q o d = some report' ∧
        report = report' ∧ report.renderText = report'.renderText := by
  have hblank' : ∀ r ∈ ss, Text.isBlankText r.name = false := fun r hr => hblank r (hperm.subset hr)
  have hnames' : (ss.map (·.name)).Nodup := (hperm.map _).nodup_iff.mpr hnames
  refine ⟨⟨rs⟩, ⟨ss⟩, Profile.registerAll_of_distinct hblank hnames,
    Profile.registerAll_of_distinct hblank' hnames', ?_⟩
  intro mode mode'
  have hreport := aggregate_of_perm (p := ⟨rs⟩) (q := ⟨ss⟩) hperm o d
  refine ⟨_, _, lintWith_undisturbed mode ⟨rs⟩ o d, lintWith_undisturbed mode' ⟨ss⟩ o d, hreport.symm, ?_⟩
  rw [hreport]

/-- Four rules registered forwards and backwards. Two report the same about the same node with different severities,
one breaks down and one reports a fault. -/
theorem lint_ignores_registration_reversed :
    let rule (name : Char) (outcome : Outcome) : Rule :=
      ⟨String.ofList [name], .error, String.ofList [], fun _ => outcome, fun _ => []⟩
    let finding (s : Severity) : Finding := ⟨String.ofList ['x'], s, String.ofList ['m'], [], ⟨1, 1, 1, 4⟩⟩
    let rs := [rule 'a' (.findings [finding .info]), rule 'b' (.findings [finding .error]), rule 'c' (.crashed none),
      rule 'd' (.failed (String.ofList ['f']))]
    let d := Document.ofTree (.scalar [] ⟨1, 1, 1, 4⟩ .null)
    ∃ p q, Profile.empty.registerAll rs = .ok p ∧ Profile.empty.registerAll rs.reverse = .ok q ∧
      ∃ report report', lintWith undisturbed .parallel p .empty d = some report ∧
        lintWith undisturbed .sequential q .empty d = some report' ∧
        report = report' ∧ report.renderText = report'.renderText := by
  intro rule finding rs d
  have hblank : ∀ r ∈ rs, Text.isBlankText r.name = false := by
    simp [rs, rule, Text.isBlankText, Text.isBlank]
  have hnames : (rs.map (·.name)).Nodup := by
    have hmap : rs.map (·.name) = [['a'], ['b'], ['c'], ['d']].map String.ofList := rfl
    rw [hmap]
    decide
  obtain ⟨p, q, hp, hq, hlint⟩ := lint_ignores_registration hblank hnames rs.reverse_perm .empty d
  exact ⟨p, q, hp, hq, hlint .parallel .sequential⟩

end DocLint
