import DocLint.Proofs.Disabling
import DocLint.Proofs.Override
import DocLint.Settings

/-!
# Proofs: which severity a finding gets

What an operator asks for goes before what the configuration says, this goes before what the policy says, and where
none of them says anything the family decides (`resolve_effective`, `BuiltinRule::from_spec`). So a report depends on
what is said about registered rules alone.
-/

namespace DocLint

/-! ## Without overrides -/

/-- The severity of what an entry asks for, where nothing else names one. -/
def Demand.severity : Demand → Severity
  | .required _ | .forbidden | .type _ => .error
  | .pattern _ | .order .. => .warning

theorem PolicyEntry.severity_family {e : PolicyEntry} {f : Family} (h : e.family = .ok f) :
    f.severity = e.demand.severity := by
  cases hdemand : e.demand with
  | pattern source =>
    simp only [family, hdemand] at h
    split at h
    · cases h
      rfl
    · cases h
  | _ =>
    simp only [family, hdemand] at h
    cases h
    rfl

theorem PolicyEntry.severity_compile {e : PolicyEntry} {c : Check} (h : e.compile = .ok c) :
    c.severity = e.level.getD e.demand.severity := by
  unfold compile at h
  split at h
  · cases h
  · obtain ⟨f, hfamily, rfl⟩ := map_eq_ok_iff.mp h
    rw [← severity_family hfamily]

theorem Check.severity_of_found {c : Check} {root : Node} {f : Finding} (h : f ∈ (c.evaluate root).found) :
    f.severity = c.severity := by
  rcases c.exists_notes root with ⟨reason, hr⟩ | ⟨notes, hnotes, hf⟩
  · rw [hr] at h
    cases h
  · rw [hf, Outcome.found] at h
    obtain ⟨note, -, rfl⟩ := List.mem_map.mp h
    rfl

/-! ## With overrides -/

/-- The severity of the findings of an entry: that of the last flag for its name, or else of the last entry of the
configuration, or else its own, or else that of what it asks for. -/
def PolicyEntry.chosenSeverity (e : PolicyEntry) (flags config : List (String × Severity)) : Severity :=
  (lastLevel? flags e.name <|> lastLevel? config e.name <|> e.level).getD e.demand.severity

theorem Settings.overrides_ofConfig {root : FileName} {config? : Option Config} {request : Request} {s : Settings}
    (h : ofConfig root config? request = .ok s) :
    s.overrides = (Overrides.ofList (config?.getD .empty).severities).merge (Overrides.ofList request.severities) := by
  unfold ofConfig at h
  simp only at h
  split at h
  · cases h
  · cases h
    rfl

/-- Where the severities are read another way, the settings differ in the severities alone. -/
theorem Settings.ofConfig_severities {root : FileName} {config? : Option Config} {request : Request} {s : Settings}
    (h : ofConfig root config? request = .ok s) {read : List (String × Severity) → List (String × Severity)}
    (hread : read [] = []) :
    let config := (config?.getD .empty).severities
    ofConfig root (config?.map fun c => { c with severities := read c.severities })
        { request with severities := read request.severities } =
      .ok { s with overrides := .merge (.ofList (read config)) (.ofList (read request.severities)) } := by
  unfold ofConfig at *
  cases config? with
  | none =>
    simp only [Option.map_none, Option.getD_none, Config.empty, hread] at *
    split at h
    · cases h
    · cases h
      rfl
  | some c =>
    simp only [Option.map_some, Option.getD_some] at *
    split at h
    · cases h
    · cases h
      rfl

section Policy

variable {entries : List PolicyEntry} {p q : Profile} {root : Node}

theorem exists_entry_of_found (hp : Profile.ofPolicy entries = .ok p) (hq : q.rules ⊆ p.rules) {f : Finding}
    (hf : f ∈ q.found root) : ∃ e ∈ entries, e.name = f.rule ∧ f.severity = e.level.getD e.demand.severity := by
  obtain ⟨r, hr, hfound⟩ := List.mem_flatMap.mp hf
  obtain ⟨e, he, hcompiled⟩ := Profile.exists_entry_of_mem hp (hq hr)
  have hname : f.rule = r.name := rule_eq_name_of_mem hp (hq hr) hfound
  refine ⟨e, he, by rw [hname, Profile.name_of_compiled hcompiled], ?_⟩
  obtain ⟨c, hcompile, rfl⟩ := hcompiled
  rw [Check.severity_of_found hfound, PolicyEntry.severity_compile hcompile]

theorem contains_of_found (hp : Profile.ofPolicy entries = .ok p) (hq : q.rules ⊆ p.rules) {f : Finding}
    (hf : f ∈ q.found root) : q.contains f.rule = true := by
  obtain ⟨r, hr, hfound⟩ := List.mem_flatMap.mp hf
  rw [Profile.contains_iff, rule_eq_name_of_mem hp (hq hr) hfound]
  exact List.mem_map_of_mem hr

/-- The entry of a name decides about all findings of this name. -/
theorem chosenSeverity_of_found (hp : Profile.ofPolicy entries = .ok p) (hq : q.rules ⊆ p.rules)
    (flags config : List (String × Severity)) {f : Finding} (hf : f ∈ q.found root) {e : PolicyEntry}
    (he : e ∈ entries) (hname : e.name = f.rule) :
    (((Overrides.ofList config).merge (Overrides.ofList flags)).get? f.rule).getD f.severity =
      e.chosenSeverity flags config := by
  obtain ⟨e', he', hname', hseverity⟩ := exists_entry_of_found hp hq hf
  have hsame : e' = e :=
    List.inj_on_of_nodup_map (Profile.nodup_entries_ofPolicy hp) he' he (hname'.trans hname.symm)
  rw [Overrides.get?_merge, Overrides.get?_ofList, Overrides.get?_ofList, hseverity, hsame, ← hname,
    PolicyEntry.chosenSeverity]
  cases lastLevel? flags e.name <;> cases lastLevel? config e.name <;> rfl

/-- Each finding of a report has the severity in the last flag for its rule, or if there is none that in the last entry
of the configuration for it, or else the one in the policy, or else the one of its family. The verdict and the exit
status follow from these severities. Flags and entries of the configuration for names of no rule can be left out. -/
theorem lint_severity_precedence {texts : List String} {dir : FileName} {config? : Option Config} {request : Request}
    {s : Settings} {tree : Node} (hp : Profile.ofPolicy entries = .ok p)
    (hflags : texts.mapM readFlag = .ok request.severities) (hs : Settings.ofConfig dir config? request = .ok s)
    (hkeys : (Document.ofTree tree).root.Unrepeated) :
    let q := p.disable s.disable
    let d := Document.ofTree tree
    let chosen (e : PolicyEntry) := e.chosenSeverity request.severities (config?.getD .empty).severities
    let fails := ∃ g ∈ q.found d.root, ∃ e ∈ entries, e.name = g.rule ∧ chosen e = .error
    let known (es : List (String × Severity)) := es.filter fun e => q.contains e.1
    List.Forall₂ IsFlag texts request.severities ∧ (entries.map (·.name)).Nodup ∧
    ∃ report, lintWith undisturbed s.mode q s.overrides d = some report ∧
      (∀ f ∈ report.findings, ∃ e ∈ entries, e.name = f.rule ∧ f.severity = chosen e) ∧
      (∀ f, f ∈ report.findings ↔
        ∃ g ∈ q.found d.root, ∃ e ∈ entries, e.name = g.rule ∧ f = { g with severity := chosen e }) ∧
      (report.passed = true ∧ report.exitStatus = .passed ↔ ¬ fails) ∧
      (report.passed = false ∧ report.exitStatus = .failed ↔ fails) ∧
      ∃ s', Settings.ofConfig dir (config?.map fun c => { c with severities := known c.severities })
          { request with severities := known request.severities } = .ok s' ∧
        lintWith undisturbed s'.mode (p.disable s'.disable) s'.overrides d = some report := by
  intro q d chosen fails known
  have hnodup := Profile.nodup_entries_ofPolicy hp
  have hsubset : q.rules ⊆ p.rules := p.disable_subset s.disable
  have hlint := lintWith_eq_found_of_subset hp hkeys hsubset s.overrides s.mode
  have hchosen : ∀ g ∈ q.found d.root, ∀ e ∈ entries, e.name = g.rule →
      (s.overrides.get? g.rule).getD g.severity = chosen e := by
    intro g hg e he hname
    rw [Settings.overrides_ofConfig hs]
    exact chosenSeverity_of_found hp hsubset _ _ hg he hname
  -- The names of entries are distinct, so it does not matter which entry of a name is taken.
  have hmem : ∀ f, f ∈ (Report.aggregate (q.found d.root) s.overrides q.size).findings ↔
      ∃ g ∈ q.found d.root, ∃ e ∈ entries, e.name = g.rule ∧ f = { g with severity := chosen e } := by
    intro f
    rw [Report.mem_findings_aggregate]
    constructor
    · rintro ⟨g, hg, rfl⟩
      obtain ⟨e, he, hname, -⟩ := exists_entry_of_found hp hsubset hg
      exact ⟨g, hg, e, he, hname, by rw [hchosen g hg e he hname]⟩
    · rintro ⟨g, hg, e, he, hname, rfl⟩
      exact ⟨g, hg, by rw [hchosen g hg e he hname]⟩
  have hpassed : (Report.aggregate (q.found d.root) s.overrides q.size).passed = true ↔ ¬ fails := by
    rw [Report.passed_aggregate_iff]
    constructor
    · rintro h ⟨g, hg, e, he, hname, herror⟩
      exact h _ ((hmem _).mpr ⟨g, hg, e, he, hname, rfl⟩) herror
    · intro h f hf herror
      obtain ⟨g, hg, e, he, hname, rfl⟩ := (hmem f).mp hf
      exact h ⟨g, hg, e, he, hname, herror⟩
  refine ⟨(forall₂_of_mapM hflags).imp fun _ _ => readFlag_eq_ok_iff.mp, hnodup, _, hlint, ?_, hmem, ?_, ?_, ?_⟩
  · intro f hf
    obtain ⟨g, hg, e, he, hname, rfl⟩ := (hmem f).mp hf
    exact ⟨e, he, hname, rfl⟩
  · exact ⟨fun h => hpassed.mp h.1, fun h => ⟨hpassed.mpr h, Report.exitStatus_of_passed (hpassed.mpr h)⟩⟩
  · have hfailed : (Report.aggregate (q.found d.root) s.overrides q.size).passed = false ↔ fails := by
      rw [← Bool.not_eq_true, hpassed, not_not]
    exact ⟨fun h => hfailed.mp h.1, fun h => ⟨hfailed.mpr h, Report.exitStatus_of_not_passed (hfailed.mpr h)⟩⟩
  · refine ⟨_, Settings.ofConfig_severities hs (show known [] = [] from rfl), ?_⟩
    rw [lintWith_eq_found_of_subset hp hkeys hsubset]
    refine congrArg some (Report.aggregate_congr_overrides (fun g hg => ?_) q.size)
    have hknown := contains_of_found hp hsubset hg
    simp only [Settings.overrides_ofConfig hs, Overrides.get?_merge, Overrides.get?_ofList, known,
      lastLevel?_filter hknown]

end Policy

/-- Two rules that find the same node. The policy and the configuration name a severity of the first, the configuration
and two flags one of the second, and a flag one of a rule that there is not. -/
theorem lint_severity_precedence_pair :
    let x := String.ofList ['x']
    let y := String.ofList ['y']
    let forbid (name : String) (level : Option Severity) : PolicyEntry :=
      ⟨name, String.ofList ['*'], .forbidden, level, none⟩
    let entries := [forbid x (some .warning), forbid y none]
    let config : Config := { Config.empty with severities := [(x, .info), (y, .error)] }
    let texts := [['y', '=', 'i', 'n', 'f', 'o'], [' ', 'y', ' ', '=', 'W', 'a', 'r', 'n'],
      ['a', '=', 'y', '=', 'e', 'r', 'r']].map String.ofList
    let d := Document.ofTree (.mapping [] ⟨1, 1, 2, 1⟩ [(x, .scalar [] ⟨1, 8, 1, 11⟩ .null)])
    ∃ p request s report, Profile.ofPolicy entries = .ok p ∧ texts.mapM readFlag = .ok request.severities ∧
      Settings.ofConfig ⟨x⟩ (some config) request = .ok s ∧
      lintWith undisturbed s.mode (p.disable s.disable) s.overrides d = some report ∧
      (∀ f ∈ report.findings, f.rule = x ∧ f.severity = .info ∨ f.rule = y ∧ f.severity = .warning) ∧
      (∃ f ∈ report.findings, f.rule = y) ∧ report.passed = true := by
  intro x y forbid entries config texts d
  let check (name : String) (s : Severity) : Check :=
    ⟨name, s, none, ⟨String.ofList ['*'], [.any]⟩, .forbidden⟩
  let p : Profile := ⟨[(check x .warning).toRule, (check y .error).toRule]⟩
  let request : Request :=
    ⟨none, none, none, false, [(y, .info), (y, .warning), (String.ofList ['a', '=', 'y'], .error)]⟩
  have hcompile : ∀ name level, (forbid name level).compile = .ok (check name (level.getD .error)) :=
    PolicyEntry.compile_forbidden_everywhere
  have hp : Profile.ofPolicy entries = .ok p := by
    simp only [Profile.ofPolicy, Profile.extend, entries, hcompile]
    simp only [Profile.register, Text.isBlankText, check, Check.toRule, x, y, String.toList_ofList]
    rfl
  have hflags : texts.mapM readFlag = .ok request.severities := rfl
  have hkeys : d.root.Unrepeated := by
    simp [d, Document.ofTree, Node.place, Node.placeEntries, Node.Unrepeated, Node.preorder,
      Node.preorderEntries, Node.keys]
  have hchosen : ∀ e ∈ entries,
      e.name = x ∧ e.chosenSeverity request.severities config.severities = .info ∨
        e.name = y ∧ e.chosenSeverity request.severities config.severities = .warning := by
    intro e he
    rcases List.mem_pair.mp he with rfl | rfl
    · exact .inl ⟨rfl, rfl⟩
    · exact .inr ⟨rfl, rfl⟩
  have hs : Settings.ofConfig ⟨x⟩ (some config) request = .ok _ := rfl
  obtain ⟨-, -, report, hlint, hseverity, hmem, hpassed, -, -⟩ := lint_severity_precedence hp hflags hs hkeys
  refine ⟨p, request, _, report, hp, hflags, hs, hlint, fun f hf => ?_, ?_, (hpassed.mpr ?_).1⟩
  · obtain ⟨e, he, hname, hlevel⟩ := hseverity f hf
    rw [← hname, hlevel]
    exact hchosen e he
  · exact ⟨_, (hmem _).mpr ⟨_, .tail _ (.head _), forbid y none, .tail _ (.head _), rfl, rfl⟩, rfl⟩
  · rintro ⟨g, -, e, he, -, herror⟩
    rcases hchosen e he with ⟨-, hinfo⟩ | ⟨-, hwarning⟩
    · exact absurd (hinfo.symm.trans herror) (by decide)
    · exact absurd (hwarning.symm.trans herror) (by decide)

end DocLint
