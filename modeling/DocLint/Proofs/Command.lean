import DocLint.Command
import DocLint.Proofs.Run
import DocLint.Proofs.Targets

/-!
# Proofs: runs on several files

A run on several files (`run_lint`) loads each file, lints the documents among them in one batch and tells the
troubles and the reports. Nothing that it does with a file depends on another file. So what it writes about some
files is what it writes about each of them, one after the other, and it ends as gravely as the gravest of the runs
on a single file.
-/

namespace DocLint

/-! ## Exit statuses -/

namespace ExitStatus

theorem code_max_le_iff {a b : ExitStatus} {n : Nat} : (max a b).code ≤ n ↔ a.code ≤ n ∧ b.code ≤ n := by
  unfold max
  split <;> omega

theorem eq_of_code {a b : ExitStatus} (h : a.code = b.code) : a = b := by
  cases a <;> cases b <;> first | rfl | cases h

end ExitStatus

/-! ## Outputs -/

theorem OutputMode.render_nil {mode : OutputMode} (h : mode ≠ .json) (colours : Bool) :
    mode.render colours [] = "" := by
  cases mode with
  | json => exact absurd rfl h
  | _ => rfl

theorem OutputMode.render_append {mode : OutputMode} (h : mode ≠ .json) (colours : Bool)
    (xs ys : List (String × Report)) :
    mode.render colours (xs ++ ys) = mode.render colours xs ++ mode.render colours ys := by
  cases mode with
  | human => simp [render, Report.renderHuman, Report.joinLines, String.join_append]
  | text => simp [render, String.join_append]
  | json => exact absurd rfl h

/-- What is written item by item is, for some of the items, written one after the other. -/
theorem write_filterMap {α β : Type} {write : List β → String} (hnil : write [] = "")
    (happend : ∀ xs ys, write (xs ++ ys) = write xs ++ write ys) (f : α → Option β) (ts : List α) :
    write (ts.filterMap f) = String.join (ts.map fun t => write ([t].filterMap f)) := by
  induction ts with
  | nil => exact hnil
  | cons t ts ih =>
    rw [← List.singleton_append, List.filterMap_append, happend, ih, List.singleton_append, List.map_cons,
      String.join_cons]

namespace Command

/-- The gravest of some exit statuses is as grave as each of them and no graver than all. -/
theorem code_worst_le_iff {statuses : List ExitStatus} {n : Nat} :
    (worst statuses).code ≤ n ↔ ∀ s ∈ statuses, s.code ≤ n := by
  have hfold : ∀ start : ExitStatus, (statuses.foldl ExitStatus.max start).code ≤ n ↔
      start.code ≤ n ∧ ∀ s ∈ statuses, s.code ≤ n := by
    induction statuses with
    | nil => simp
    | cons s statuses ih =>
      intro start
      rw [List.foldl_cons, ih, ExitStatus.code_max_le_iff, List.forall_mem_cons, and_assoc]
  rw [worst, hfold]
  exact and_iff_right (Nat.zero_le n)

theorem worst_congr {statuses others : List ExitStatus} (h : ∀ s, s ∈ statuses ↔ s ∈ others) :
    worst statuses = worst others := by
  apply ExitStatus.eq_of_code
  apply Nat.le_antisymm
  · exact code_worst_le_iff.mpr fun s hs => code_worst_le_iff.mp (Nat.le_refl _) s ((h s).mp hs)
  · exact code_worst_le_iff.mpr fun s hs => code_worst_le_iff.mp (Nat.le_refl _) s ((h s).mpr hs)

theorem worst_eq_passed_iff {statuses : List ExitStatus} :
    worst statuses = .passed ↔ ∀ s ∈ statuses, s = .passed := by
  have hcode : ∀ s : ExitStatus, s = .passed ↔ s.code ≤ 0 := fun s => by cases s <;> decide
  simp only [hcode, code_worst_le_iff]

theorem worst_eq_trouble_iff {statuses : List ExitStatus} :
    worst statuses = .trouble ↔ .trouble ∈ statuses := by
  have hcode : ∀ s : ExitStatus, s ≠ .trouble ↔ s.code ≤ 1 := fun s => by cases s <;> decide
  rw [← not_iff_not, ← ne_eq, hcode, code_worst_le_iff]
  simp only [← hcode]
  exact List.forall_mem_ne'

theorem worst_eq_failed_iff {statuses : List ExitStatus} :
    worst statuses = .failed ↔ .trouble ∉ statuses ∧ .failed ∈ statuses := by
  rw [← worst_eq_trouble_iff]
  constructor
  · intro h
    refine ⟨by simp [h], ?_⟩
    by_contra hfailed
    have hpassed : worst statuses = .passed := by
      refine worst_eq_passed_iff.mpr fun s hs => ?_
      cases s with
      | passed => rfl
      | failed => exact absurd hs hfailed
      | trouble => exact absurd (worst_eq_trouble_iff.mpr hs) (by simp [h])
    simp [hpassed] at h
  · rintro ⟨htrouble, hfailed⟩
    cases hworst : worst statuses with
    | passed => cases worst_eq_passed_iff.mp hworst _ hfailed
    | failed => rfl
    | trouble => exact absurd hworst htrouble

/-- What is complained of about some troubles. -/
def complaints (colours : Bool) (troubles : List Trouble) : String :=
  String.join (troubles.map fun e => complaint colours e.message)

theorem complaints_append (colours : Bool) (xs ys : List Trouble) :
    complaints colours (xs ++ ys) = complaints colours xs ++ complaints colours ys := by
  rw [complaints, List.map_append, String.join_append]
  rfl

/-! ## Runs on targets -/

section
variable (fs : Files Id) (s : Settings) (p : Profile)

/-- What comes of a target: why it has no report, or its report. -/
def outcome (t : FileName) : Except Trouble Report :=
  (load fs t).map fun d => Report.aggregate (p.rules.flatMap fun r => r.run d) s.overrides p.size

/-- Why a target has no report, if it has none. -/
def trouble? (t : FileName) : Option Trouble :=
  match outcome fs s p t with
  | .error e => some e
  | .ok _ => none

/-- The report of a target under its name, if it has one. -/
def reportOf? (t : FileName) : Option (String × Report) :=
  match outcome fs s p t with
  | .error _ => none
  | .ok r => some (t.text, r)

/-- How a run ends of which a target is the only one. -/
def status (t : FileName) : ExitStatus :=
  match outcome fs s p t with
  | .error _ => .trouble
  | .ok r => r.exitStatus

end

variable {fs : Files Id} {s : Settings} {p : Profile}

theorem documentsOf_loaded (ts : List FileName) :
    documentsOf (ts.map fun t => (t, load fs t)) = ts.filterMap fun t => (load fs t).toOption.map (t, ·) := by
  rw [documentsOf, List.filterMap_map]
  refine List.filterMap_congr fun t _ => ?_
  simp only [Function.comp]
  cases load fs t <;> rfl

theorem faultsOf_loaded (s : Settings) (p : Profile) (ts : List FileName) :
    faultsOf (ts.map fun t => (t, load fs t)) = ts.filterMap (trouble? fs s p) := by
  rw [faultsOf, List.filterMap_map]
  refine List.filterMap_congr fun t _ => ?_
  simp only [Function.comp, trouble?, outcome]
  cases load fs t <;> rfl

theorem cancelledOf_reports (es : List (FileName × Report)) :
    cancelledOf (es.map fun e => (e.1, some e.2)) = [] := by
  simp [cancelledOf, List.filterMap_map]

theorem reportsOf_reports (es : List (FileName × Report)) :
    reportsOf (es.map fun e => (e.1, some e.2)) = es.map fun e => (e.1.text, e.2) := by
  simp [reportsOf, List.filterMap_map]

/-- A run tells of each target what comes of it, whatever comes of the others. -/
theorem lintTargets_eq (colours : Bool) (s : Settings) (p : Profile) (ts : List FileName) :
    lintTargets fs colours s p ts = told colours (defaultsNote colours s) s.output
      (ts.filterMap (trouble? fs s p)) (ts.filterMap (reportOf? fs s p)) := by
  have hloaded : (ts.mapM fun file => (return (file, ← load fs file) : Id (FileName × Except Trouble Document))) =
      ts.map fun t => (t, load fs t) := List.mapM_pure ..
  let report (d : Document) := Report.aggregate (p.rules.flatMap fun r => r.run d) s.overrides p.size
  -- Nothing calls these runs off, so each document comes out of the batch with its own report.
  have houtcomes : ∀ documents : List (FileName × Document),
      (documents.map (·.1)).zip (lintBatch (fun _ => undisturbed) s.mode p s.overrides (documents.map (·.2))) =
        (documents.map fun e => (e.1, report e.2)).map fun e => (e.1, some e.2) := by
    intro documents
    rw [lintBatch_undisturbed, List.map_map, List.zip_map', List.map_map]
    rfl
  have hentries : ((ts.filterMap fun t => (load fs t).toOption.map (t, ·)).map fun e => (e.1, report e.2)).map
      (fun e => (e.1.text, e.2)) = ts.filterMap (reportOf? fs s p) := by
    rw [List.map_filterMap, List.map_filterMap]
    refine List.filterMap_congr fun t _ => ?_
    simp only [reportOf?, outcome]
    cases load fs t <;> rfl
  rw [lintTargets, hloaded]
  simp only [bind, pure]
  rw [documentsOf_loaded, faultsOf_loaded s p, houtcomes, cancelledOf_reports, reportsOf_reports, hentries,
    List.append_nil]

theorem status_eq_trouble_iff {t : FileName} : status fs s p t = .trouble ↔ ∃ e, load fs t = .error e := by
  unfold status outcome
  cases load fs t with
  | error e => simp [Except.map]
  | ok d =>
    simp only [Except.map, Report.exitStatus]
    split <;> simp

theorem status_eq_failed_iff {t : FileName} :
    status fs s p t = .failed ↔ ∃ d report, load fs t = .ok d ∧
      lintWith undisturbed s.mode p s.overrides d = some report ∧ ∃ x ∈ report.findings, x.severity = .error := by
  unfold status outcome
  cases load fs t with
  | error e => simp [Except.map]
  | ok d =>
    simp only [Except.map, Report.exitStatus, lintWith_undisturbed]
    constructor
    · intro h
      split_ifs at h with hpassed
      rw [Report.passed_aggregate_iff] at hpassed
      push Not at hpassed
      obtain ⟨x, hx, herror⟩ := hpassed
      exact ⟨d, _, rfl, rfl, x, hx, herror⟩
    · rintro ⟨_, _, hd, hreport, x, hx, herror⟩
      cases hd
      cases hreport
      exact if_neg fun hpassed => (Report.passed_aggregate_iff _ _ _).mp hpassed x hx herror

theorem reportOf?_of_load {t : FileName} {d : Document} (hd : load fs t = .ok d) {r : Report}
    (hr : lintWith undisturbed s.mode p s.overrides d = some r) : reportOf? fs s p t = some (t.text, r) := by
  rw [lintWith_undisturbed] at hr
  cases hr
  simp only [reportOf?, outcome, hd, Except.map]

/-! ## What a run writes and how it ends -/

theorem eq_status_iff {t : FileName} {x : ExitStatus} :
    x = status fs s p t ↔
      (∃ e, trouble? fs s p t = some e ∧ x = .trouble) ∨ ∃ e, reportOf? fs s p t = some e ∧ x = e.2.exitStatus := by
  unfold status trouble? reportOf?
  cases outcome fs s p t with
  | error e => simp
  | ok r => simp

theorem status_lintTargets (colours : Bool) (ts : List FileName) :
    (lintTargets fs colours s p ts).status = worst (ts.map (status fs s p)) := by
  rw [lintTargets_eq, told]
  refine worst_congr fun x => ?_
  simp only [List.mem_append, List.mem_map, List.mem_filterMap]
  constructor
  · rintro (⟨e, ⟨t, ht, htrouble⟩, rfl⟩ | ⟨e, ⟨t, ht, hentry⟩, rfl⟩)
    · exact ⟨t, ht, (eq_status_iff.mpr (.inl ⟨e, htrouble, rfl⟩)).symm⟩
    · exact ⟨t, ht, (eq_status_iff.mpr (.inr ⟨e, hentry, rfl⟩)).symm⟩
  · rintro ⟨t, ht, rfl⟩
    rcases eq_status_iff.mp rfl with ⟨e, htrouble, hx⟩ | ⟨e, hentry, hx⟩
    · exact .inl ⟨e, ⟨t, ht, htrouble⟩, hx.symm⟩
    · exact .inr ⟨e, ⟨t, ht, hentry⟩, hx.symm⟩

theorem output_lintTargets (h : s.output ≠ .json) (colours : Bool) (ts : List FileName) :
    (lintTargets fs colours s p ts).output =
      String.join (ts.map fun t => (lintTargets fs colours s p [t]).output) := by
  simp only [lintTargets_eq, told]
  exact write_filterMap (OutputMode.render_nil h colours) (OutputMode.render_append h colours) _ ts

/-- The reports of a target as JSON: one at most. -/
def items (fs : Files Id) (s : Settings) (p : Profile) (t : FileName) : List Json.Value :=
  ([t].filterMap (reportOf? fs s p)).map fun e => e.2.toValue e.1

theorem items_of_load {t : FileName} {d : Document} (hd : load fs t = .ok d) {r : Report}
    (hr : lintWith undisturbed s.mode p s.overrides d = some r) : items fs s p t = [r.toValue t.text] := by
  simp [items, reportOf?_of_load hd hr]

theorem items_of_error {t : FileName} {e : Trouble} (h : load fs t = .error e) : items fs s p t = [] := by
  simp [items, reportOf?, outcome, h, Except.map]

theorem output_lintTargets_json (h : s.output = .json) (colours : Bool) (ts : List FileName) :
    (lintTargets fs colours s p ts).output = (Json.Value.array (ts.flatMap (items fs s p))).pretty ++ "\n" := by
  have hitems : (ts.filterMap (reportOf? fs s p)).map (fun e => e.2.toValue e.1) = ts.flatMap (items fs s p) := by
    induction ts with
    | nil => rfl
    | cons t ts ih =>
      rw [← List.singleton_append, List.filterMap_append, List.map_append, ih]
      rfl
  simp only [lintTargets_eq, told, h, OutputMode.render, Report.renderJson, Report.batchValue, hitems]

theorem remarks_lintTargets (colours : Bool) (ts : List FileName) :
    (lintTargets fs colours s p ts).remarks = defaultsNote colours s ++
      String.join (ts.map fun t => complaints colours ([t].filterMap (trouble? fs s p))) := by
  rw [← write_filterMap rfl (complaints_append colours), lintTargets_eq]
  rfl

/-! ## Runs on files -/

section
variable {i : Invocation} {files : List String} {colours : Bool}

/-- Files without wildcards are linted as they are named, in order. -/
theorem run_of_plain (hs : settings fs i = .ok s) (hp : profile fs s = .ok p) (hne : files ≠ [])
    (hplain : ∀ f ∈ files, Targets.isPattern ⟨f⟩ = false) :
    run fs colours (.lint files i) = lintTargets fs colours s p (Targets.ofNames (files.map FileName.mk)) := by
  obtain ⟨f, hf⟩ := List.exists_mem_of_ne_nil files hne
  obtain ⟨t, ht, -⟩ := Targets.exists_mem_ofNames (List.mem_map_of_mem (f := FileName.mk) hf)
  have hexpand : Targets.expand fs none files = .ok (Targets.ofNames (files.map FileName.mk)) := by
    simp only [Targets.expand, Targets.expandEntries_of_plain fs hplain]
    rfl
  have htargets : targets fs s files = .ok (Targets.ofNames (files.map FileName.mk)) := by
    have hempty : files.isEmpty = false := List.isEmpty_eq_false_iff.mpr hne
    simp only [targets, hempty, hexpand]
    generalize Targets.ofNames (files.map FileName.mk) = ts at ht
    cases ts with
    | nil => cases ht
    | cons t ts => rfl
  simp only [run, bind, hs, hp, htargets]

theorem mem_map_mk {t : FileName} : t ∈ files.map FileName.mk ↔ t.text ∈ files := by
  constructor
  · intro ht
    obtain ⟨f, hf, rfl⟩ := List.mem_map.mp ht
    exact hf
  · intro ht
    exact List.mem_map.mpr ⟨t.text, ht, rfl⟩

theorem spelled_map (hspelled : ∀ f ∈ files, ∀ g ∈ files, FileName.compare ⟨f⟩ ⟨g⟩ = .eq → f = g) :
    ∀ m ∈ files.map FileName.mk, ∀ n ∈ files.map FileName.mk, FileName.compare m n = .eq → m = n := by
  intro m hm n hn heq
  exact congrArg FileName.mk (hspelled m.text (mem_map_mk.mp hm) n.text (mem_map_mk.mp hn) heq)

/-- Where no two files are spellings of one name, they are all targets. -/
theorem mem_targets_iff (hspelled : ∀ f ∈ files, ∀ g ∈ files, FileName.compare ⟨f⟩ ⟨g⟩ = .eq → f = g) {t : FileName} :
    t ∈ Targets.ofNames (files.map FileName.mk) ↔ t.text ∈ files :=
  (Targets.mem_ofNames_iff (spelled_map hspelled)).trans mem_map_mk

theorem isPattern_eq_false_iff {f : String} :
    Targets.isPattern ⟨f⟩ = false ↔ ∀ c ∈ f.toList, c ≠ '*' ∧ c ≠ '?' ∧ c ≠ '[' := by
  simp [Targets.isPattern, Targets.isWildcard, List.any_eq_false, not_or, and_assoc]

/-- Where the settings and the policy are there, to lint files without wildcards is to lint each of them, in the order
of their names and once each. But for JSON the outputs are put together, and the complaints are in any case; of JSON
the arrays are. The run ends as gravely as the gravest of the runs on a single file. So neither the order of the files
nor repetitions matter, and a file that is no document takes nothing away from the reports of the others. -/
theorem run_lint_file_by_file (hs : settings fs i = .ok s) (hp : profile fs s = .ok p) (hne : files ≠ [])
    (hplain : ∀ f ∈ files, ∀ c ∈ f.toList, c ≠ '*' ∧ c ≠ '?' ∧ c ≠ '[')
    (hspelled : ∀ f ∈ files, ∀ g ∈ files, FileName.compare ⟨f⟩ ⟨g⟩ = .eq → f = g) (colours : Bool) :
    let whole (files : List String) : Transcript := run fs colours (.lint files i)
    let single (t : FileName) : Transcript := whole [t.text]
    ∃ ts : List FileName, ts.Pairwise (fun t u => FileName.compare t u = .lt) ∧ (∀ t, t ∈ ts ↔ t.text ∈ files) ∧
      (s.output ≠ .json → (whole files).output = String.join (ts.map fun t => (single t).output)) ∧
      (s.output = .json → ∃ items : FileName → List Json.Value,
        (∀ t e, load fs t = .error e → items t = []) ∧
        (∀ t d report, load fs t = .ok d → lintWith undisturbed s.mode p s.overrides d = some report →
          items t = [report.toValue t.text]) ∧
        (∀ t ∈ ts, (single t).output = (Json.Value.array (items t)).pretty ++ "\n") ∧
        (whole files).output = (Json.Value.array (ts.flatMap items)).pretty ++ "\n") ∧
      (∃ told : FileName → String,
        (∀ t ∈ ts, (single t).remarks = defaultsNote colours s ++ told t) ∧
        (whole files).remarks = defaultsNote colours s ++ String.join (ts.map told)) ∧
      (∀ n, (whole files).status.code ≤ n ↔ ∀ t ∈ ts, (single t).status.code ≤ n) ∧
      ((whole files).status = .trouble ↔ ∃ f ∈ files, ∃ e, load fs ⟨f⟩ = .error e) ∧
      ((whole files).status = .failed ↔ (∀ f ∈ files, ∃ d, load fs ⟨f⟩ = .ok d) ∧
        ∃ f ∈ files, ∃ d report, load fs ⟨f⟩ = .ok d ∧
          lintWith undisturbed s.mode p s.overrides d = some report ∧ ∃ x ∈ report.findings, x.severity = .error) ∧
      (∀ others : List String, (∀ f, f ∈ others ↔ f ∈ files) → whole others = whole files) ∧
      ∀ f ∈ files, ∀ d report, load fs ⟨f⟩ = .ok d → lintWith undisturbed s.mode p s.overrides d = some report →
        s.output = .text → (single ⟨f⟩).output = report.renderFileText f := by
  intro whole single
  let ts := Targets.ofNames (files.map FileName.mk)
  have hmem : ∀ t, t ∈ ts ↔ t.text ∈ files := fun t => mem_targets_iff hspelled
  have hsome : ∀ q : FileName → Prop, (∃ t, t ∈ ts ∧ q t) ↔ ∃ f ∈ files, q ⟨f⟩ := by
    intro q
    constructor
    · rintro ⟨t, ht, hq⟩
      exact ⟨t.text, (hmem t).mp ht, hq⟩
    · rintro ⟨f, hf, hq⟩
      exact ⟨⟨f⟩, (hmem ⟨f⟩).mpr hf, hq⟩
  -- The whole run and the single ones are all runs on targets, so what holds of these is read at `ts` and at `[t]`.
  have hwhole : whole files = lintTargets fs colours s p ts :=
    run_of_plain hs hp hne fun f hf => isPattern_eq_false_iff.mpr (hplain f hf)
  have hsingle : ∀ t ∈ ts, single t = lintTargets fs colours s p [t] := by
    intro t ht
    refine run_of_plain hs hp (List.cons_ne_nil _ _) fun f hf => ?_
    rw [List.mem_singleton.mp hf]
    exact isPattern_eq_false_iff.mpr (hplain _ ((hmem t).mp ht))
  refine ⟨ts, Targets.ordered_ofNames _, hmem, ?text, ?json, ?remarks, ?gravest, ?trouble, ?failed, ?others, ?report⟩
  case text =>
    intro hmode
    rw [hwhole, output_lintTargets hmode]
    refine congrArg String.join (List.map_congr_left fun t ht => ?_)
    rw [hsingle t ht]
  case json =>
    intro hmode
    refine ⟨items fs s p, fun t e => items_of_error, fun t d report hd hr => items_of_load hd hr, fun t ht => ?_, ?_⟩
    · rw [hsingle t ht, output_lintTargets_json hmode, List.flatMap_singleton]
    · rw [hwhole, output_lintTargets_json hmode]
  case remarks =>
    refine ⟨fun t => complaints colours ([t].filterMap (trouble? fs s p)), fun t ht => ?_, ?_⟩
    · rw [hsingle t ht, remarks_lintTargets, List.map_singleton, String.join_cons, String.join_nil,
        String.append_empty]
    · rw [hwhole, remarks_lintTargets]
  case gravest =>
    intro n
    rw [hwhole, status_lintTargets, code_worst_le_iff, List.forall_mem_map]
    refine forall₂_congr fun t ht => ?_
    rw [hsingle t ht, status_lintTargets, code_worst_le_iff, List.map_singleton, List.forall_mem_singleton]
  case trouble =>
    rw [hwhole, status_lintTargets, worst_eq_trouble_iff, List.mem_map, hsome]
    exact exists_congr fun f => and_congr_right fun _ => status_eq_trouble_iff
  case failed =>
    rw [hwhole, status_lintTargets, worst_eq_failed_iff, List.mem_map, List.mem_map, hsome, hsome]
    refine and_congr ?_ (exists_congr fun f => and_congr_right fun _ => status_eq_failed_iff)
    simp only [status_eq_trouble_iff, not_exists, not_and]
    refine forall₂_congr fun f _ => ?_
    cases load fs ⟨f⟩ with
    | error e => simp
    | ok d => simp
  case others =>
    intro others hothers
    have hsame : Targets.ofNames (others.map FileName.mk) = ts := by
      refine Targets.ofNames_congr (spelled_map hspelled) fun n => ?_
      rw [mem_map_mk, mem_map_mk, hothers]
    rw [hwhole, ← hsame]
    refine run_of_plain hs hp ?_ fun f hf => isPattern_eq_false_iff.mpr (hplain f ((hothers f).mp hf))
    rintro rfl
    obtain ⟨f, hf⟩ := List.exists_mem_of_ne_nil files hne
    cases (hothers f).mpr hf
  case report =>
    intro f hf d report hd hreport hmode
    have ht : ⟨f⟩ ∈ ts := (hmem ⟨f⟩).mpr hf
    rw [hsingle ⟨f⟩ ht, lintTargets_eq, told, hmode]
    simp [OutputMode.render, reportOf?_of_load hd hreport, String.join_cons]

end

/-- A file that is there and one that is not, given in the wrong order and one of them twice. -/
theorem run_lint_file_by_file_missing :
    let a := String.ofList ['a']
    let b := String.ofList ['b']
    let p := String.ofList ['p']
    let policy := "[[rules]]\nkind = \"forbidden\"\nname = \"r\"\npath = \"*\"\n"
    let fs : Files Id :=
      { kind? := fun _ => none
        read := fun n => if n.text = p then .ok policy else if n.text = a then .ok "[1]" else .error .notFound
        entries := fun _ => [] }
    let i := { Invocation.empty with policy := some p, output := some "text" }
    let whole (files : List String) : Transcript := run fs false (.lint files i)
    (∃ s profile', settings fs i = .ok s ∧ profile fs s = .ok profile' ∧ profile'.size = 1) ∧
      (load fs ⟨a⟩).isOk = true ∧ (whole [b, a, b]).output = (whole [a]).output ++ (whole [b]).output ∧
      (whole [b, a, b]).status = .trouble ∧ whole [b, a, b] = whole [a, b] := by
  intro a b p policy fs i whole
  let entry : PolicyEntry := ⟨String.ofList ['r'], String.ofList ['*'], .forbidden, none, none⟩
  let check : Check := ⟨String.ofList ['r'], .error, none, ⟨String.ofList ['*'], [.any]⟩, .forbidden⟩
  obtain ⟨root, hs⟩ : ∃ root, settings fs i = .ok ⟨root, some ⟨p⟩, .text, .parallel, [], ⟨[]⟩, [], false⟩ := ⟨_, rfl⟩
  have hpolicy : Policy.read policy = .ok [entry] := by decide +kernel
  have hcompile : entry.compile = .ok check := PolicyEntry.compile_forbidden_everywhere _ none
  have hregister : Profile.ofPolicy [entry] = .ok ⟨[check.toRule]⟩ := by
    simp only [Profile.ofPolicy, Profile.extend, hcompile]
    simp only [Profile.register, Text.isBlankText, check, Check.toRule, String.toList_ofList]
    rfl
  have hp : profile fs ⟨root, some ⟨p⟩, .text, .parallel, [], ⟨[]⟩, [], false⟩ = .ok ⟨[check.toRule]⟩ := by
    have hread : fs.read ⟨p⟩ = .ok policy := rfl
    simp only [profile, bind, hread, hpolicy, hregister]
    rfl
  have hsame : ∀ f, f ∈ [a, b] ↔ f ∈ [b, a, b] := by
    intro f
    refine ⟨List.mem_cons_of_mem b, fun h => ?_⟩
    rcases List.mem_cons.mp h with rfl | h
    · exact List.mem_cons_of_mem a List.mem_cons_self
    · exact h
  have hplain : ∀ f ∈ [b, a, b], ∀ c ∈ f.toList, c ≠ '*' ∧ c ≠ '?' ∧ c ≠ '[' := by
    simp [a, b]
  have hspelled : ∀ f ∈ [b, a, b], ∀ g ∈ [b, a, b], FileName.compare ⟨f⟩ ⟨g⟩ = .eq → f = g := by
    decide
  obtain ⟨ts, hordered, hmem, houtput, -, -, -, htrouble, -, hothers, -⟩ :=
    run_lint_file_by_file hs hp (List.cons_ne_nil _ _) hplain hspelled false
  have hts : ts = [⟨a⟩, ⟨b⟩] := by
    apply Targets.eq_of_mem_iff hordered
    · unfold Targets.Ordered
      decide
    · intro t
      have hnames : [⟨a⟩, ⟨b⟩] = [a, b].map FileName.mk := rfl
      rw [hmem, hnames, mem_map_mk, hsame]
  refine ⟨⟨_, _, hs, hp, rfl⟩, by decide +kernel, ?_, ?_, ?_⟩
  · rw [houtput (by simp), hts, List.map_cons, List.map_singleton, String.join_cons, String.join_cons, String.join_nil,
      String.append_empty]
  · exact htrouble.mpr ⟨b, List.mem_cons_self, _, rfl⟩
  · exact (hothers [a, b] hsame).symm

end Command

end DocLint
