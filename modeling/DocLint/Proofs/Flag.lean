import DocLint.Proofs.History
import DocLint.Proofs.Precedence
import DocLint.Proofs.Registration

/-!
# Proofs: which rules flags are about

A severity is written without an equals sign. So `parse_severity_flag` cuts a flag that is made of a name, an equals
sign and a severity where it was put together, whatever the name is. The name is read without the white space at its
ends, though, while a rule is registered under its name as it is given: a rule with white space at an end of its name
is reached by no flag, and by the configuration alone (`readFlag_of_registered_iff`).
-/

namespace DocLint

/-! ## Severities in text -/

/-- The texts that name a severity, trimmed and in lower case. -/
def Severity.spellings : List String :=
  ["error", "err", "warning", "warn", "info"]

theorem Severity.mem_spellings_of_read {t : String} {s : Severity} (h : read t = .ok s) :
    lowerCase (Text.trim t) ∈ spellings := by
  unfold read at h
  simp only at h
  split at h
  · case isTrue hname => rcases hname with hname | hname <;> simp [spellings, hname]
  split at h
  · case isTrue hname => rcases hname with hname | hname <;> simp [spellings, hname]
  split at h
  · case isTrue hname => simp [spellings, hname]
  · cases h

theorem Severity.equals_not_mem_of_read {t : String} {s : Severity} (h : read t = .ok s) : '=' ∉ t.toList := by
  intro hmem
  have hnone : ∀ name ∈ spellings, '=' ∉ name.toList := by decide
  refine hnone _ (mem_spellings_of_read h) ?_
  rw [lowerCase, Text.trim, String.toList_ofList, String.toList_ofList]
  exact List.mem_map.mpr ⟨'=', Text.mem_trimChars hmem (by decide), by decide⟩

/-! ## What is read from a flag -/

theorem readFlag_append {name level : String} {s : Severity} (hname : Text.trim name ≠ "")
    (hlevel : Severity.read level = .ok s) : readFlag (name ++ "=" ++ level) = .ok (Text.trim name, s) := by
  refine readFlag_of_isFlag ⟨name.toList, level.toList, ?_, Severity.equals_not_mem_of_read hlevel, ?_, hname, ?_⟩
  · simp
  · exact String.toList_ofList
  · rw [String.ofList_toList]
    exact hlevel

/-- There is no white space at the ends of a name that is read from a flag. -/
theorem solid_of_readFlag {text : String} {flag : String × Severity} (h : readFlag text = .ok flag) :
    Text.Solid flag.1.toList := by
  obtain ⟨before, -, -, -, hname, -⟩ := readFlag_eq_ok_iff.mp h
  rw [hname]
  exact (Text.trimmed_trimChars before).1

/-- Why a text is no flag: it has no equals sign, or there is no name in front of the last one, or no severity after
it. -/
inductive NoFlag (text : String) : FlagError → Prop where
  /-- There is no equals sign. -/
  | noEquals (h : '=' ∉ text.toList) : NoFlag text (.noEquals text)
  /-- Nothing but white space stands in front of the last one. -/
  | noRule {before after : List Char} (hcut : text.toList = before ++ '=' :: after) (hlast : '=' ∉ after)
      (hblank : ∀ c ∈ before, Text.isBlank c = true) : NoFlag text (.noRule text)
  /-- A name stands in front of it, but no severity after it. -/
  | unknown {before after : List Char} {cause : UnknownSeverity} (hcut : text.toList = before ++ '=' :: after)
      (hlast : '=' ∉ after) (hname : ∃ c ∈ before, Text.isBlank c = false)
      (hlevel : Severity.read (String.ofList after) = .error cause) : NoFlag text (.unknown cause)

theorem readFlag_eq_error_iff {text : String} {e : FlagError} : readFlag text = .error e ↔ NoFlag text e := by
  constructor
  · intro h
    unfold readFlag at h
    split at h
    · case h_1 hcut =>
      cases h
      exact .noEquals (splitLast?_eq_none_iff.mp hcut)
    · case h_2 before after hcut =>
      obtain ⟨htext, hlast⟩ := splitLast?_eq_some_iff.mp hcut
      simp only [List.isEmpty_iff, Text.trimChars_eq_nil_iff] at h
      split at h
      · case isTrue hblank =>
        cases h
        exact .noRule htext hlast hblank
      · case isFalse hname =>
        split at h
        · cases h
        · case h_2 cause hlevel =>
          cases h
          refine .unknown htext hlast ?_ hlevel
          simpa using hname
  · intro h
    cases h with
    | noEquals h => simp [readFlag, splitLast?_eq_none_iff.mpr h]
    | noRule hcut hlast hblank =>
      simp [readFlag, splitLast?_eq_some_iff.mpr ⟨hcut, hlast⟩, Text.trimChars_eq_nil_iff.mpr hblank]
    | @unknown before after cause hcut hlast hname hlevel =>
      have hne : Text.trimChars before ≠ [] := by
        obtain ⟨c, hc, hsolid⟩ := hname
        exact List.ne_nil_of_mem (Text.mem_trimChars hc hsolid)
      simp [readFlag, splitLast?_eq_some_iff.mpr ⟨hcut, hlast⟩, hne, hlevel]

/-- A text is no flag exactly if there is no equals sign in it, or nothing but white space in front of the last one, or
no severity after it. -/
theorem exists_readFlag_error_iff {text : String} :
    (∃ e, readFlag text = .error e) ↔
      '=' ∉ text.toList ∨ ∃ before after, text.toList = before ++ '=' :: after ∧ '=' ∉ after ∧
        ((∀ c ∈ before, Text.isBlank c = true) ∨ ∃ e, Severity.read (String.ofList after) = .error e) := by
  constructor
  · rintro ⟨e, he⟩
    cases readFlag_eq_error_iff.mp he with
    | noEquals h => exact .inl h
    | noRule hcut hlast hblank => exact .inr ⟨_, _, hcut, hlast, .inl hblank⟩
    | unknown hcut hlast _ hlevel => exact .inr ⟨_, _, hcut, hlast, .inr ⟨_, hlevel⟩⟩
  · rintro (h | ⟨before, after, hcut, hlast, h⟩)
    · exact ⟨_, readFlag_eq_error_iff.mpr (.noEquals h)⟩
    · by_cases hblank : ∀ c ∈ before, Text.isBlank c = true
      · exact ⟨_, readFlag_eq_error_iff.mpr (.noRule hcut hlast hblank)⟩
      · obtain ⟨e, he⟩ := h.resolve_left hblank
        refine ⟨_, readFlag_eq_error_iff.mpr (.unknown hcut hlast ?_ he)⟩
        simpa using hblank

/-! ## Flags among the settings -/

theorem solid_of_mem_flags {texts : List String} {flags : List (String × Severity)}
    (h : texts.mapM readFlag = .ok flags) : ∀ e ∈ flags, Text.Solid e.1.toList := by
  have hread : List.Forall₂ (fun text flag => readFlag text = .ok flag) texts flags := forall₂_of_mapM h
  clear h
  induction hread with
  | nil => simp
  | cons hfirst _ ih => exact List.forall_mem_cons.mpr ⟨solid_of_readFlag hfirst, ih⟩

theorem getLast?_flags {texts : List String} {flags : List (String × Severity)}
    (h : texts.mapM readFlag = .ok flags) {text : String} (hlast : texts.getLast? = some text)
    {flag : String × Severity} (hflag : readFlag text = .ok flag) : flags.getLast? = some flag := by
  obtain ⟨init, rfl⟩ := List.getLast?_eq_some_iff.mp hlast
  rw [List.mapM_append] at h
  obtain ⟨before, -, h⟩ := bind_eq_ok_iff.mp h
  obtain ⟨last, hread, h⟩ := bind_eq_ok_iff.mp h
  rw [List.mapM_cons, hflag] at hread
  cases hread
  cases h
  simp

theorem lastLevel?_of_getLast? {entries : List (String × Severity)} {rule : String} {s : Severity}
    (h : entries.getLast? = some (rule, s)) : lastLevel? entries rule = some s := by
  obtain ⟨init, rfl⟩ := List.getLast?_eq_some_iff.mp h
  simp [lastLevel?]

theorem lastLevel?_of_not_mem {entries : List (String × Severity)} {rule : String}
    (h : ∀ e ∈ entries, e.1 ≠ rule) : lastLevel? entries rule = none := by
  have hnone : entries.filter (·.1 = rule) = [] := by simpa using h
  rw [lastLevel?, hnone]
  rfl

/-- A flag that is about a rule and given last decides about the findings of the rule. -/
theorem severity_of_last_flag {texts : List String} {dir : FileName} {config? : Option Config} {request : Request}
    {settings : Settings} (hflags : texts.mapM readFlag = .ok request.severities)
    (hsettings : Settings.ofConfig dir config? request = .ok settings) {text rule : String} {s : Severity}
    (hlast : texts.getLast? = some text) (htext : readFlag text = .ok (rule, s)) {fs : List Finding} {n : Nat}
    {f : Finding} (hf : f ∈ (Report.aggregate fs settings.overrides n).findings) (hrule : f.rule = rule) :
    f.severity = s := by
  have hchosen : settings.overrides.get? rule = some s := by
    rw [Settings.overrides_ofConfig hsettings, Overrides.get?_merge, Overrides.get?_ofList,
      lastLevel?_of_getLast? (getLast?_flags hflags hlast htext)]
    rfl
  obtain ⟨g, -, rfl⟩ := Report.mem_findings_aggregate.mp hf
  rw [show g.rule = rule from hrule, hchosen]
  rfl

/-- No flag is about a rule with white space at an end of its name, so the configuration decides. -/
theorem get?_overrides_of_not_solid {texts : List String} {dir : FileName} {config? : Option Config}
    {request : Request} {settings : Settings} (hflags : texts.mapM readFlag = .ok request.severities)
    (hsettings : Settings.ofConfig dir config? request = .ok settings) {rule : String}
    (hrule : ¬ Text.Solid rule.toList) :
    settings.overrides.get? rule = lastLevel? (config?.getD .empty).severities rule := by
  have hnone : ∀ e ∈ request.severities, e.1 ≠ rule := fun e he heq =>
    hrule (heq ▸ solid_of_mem_flags hflags e he)
  rw [Settings.overrides_ofConfig hsettings, Overrides.get?_merge, Overrides.get?_ofList, Overrides.get?_ofList,
    lastLevel?_of_not_mem hnone]
  rfl

/-- A flag made of the name of a registered rule, an equals sign and a severity is read as the name without the white
space at its ends, and the severity. So it is about the rule exactly if there is no such white space; where there is
some, no flag is about the rule. A flag that is about the rule and given last decides about its findings, whatever
the configuration says; where none is, the configuration decides. A text is no flag exactly if there is no equals sign
in it, or nothing but white space in front of the last one, or no severity after it. -/
theorem readFlag_of_registered_iff {r : Rule} {p : Profile} {level : String} {s : Severity}
    (hr : Profile.empty.register r = .ok p) (hlevel : Severity.read level = .ok s) :
    let flag := r.name ++ "=" ++ level
    readFlag flag = .ok (Text.trim r.name, s) ∧
    (readFlag flag = .ok (r.name, s) ↔ Text.Solid r.name.toList) ∧
    ((∃ text t, readFlag text = .ok (r.name, t)) ↔ Text.Solid r.name.toList) ∧
    (∀ (texts : List String) dir config? request settings, texts.mapM readFlag = .ok request.severities →
      Settings.ofConfig dir config? request = .ok settings →
      (Text.Solid r.name.toList → texts.getLast? = some flag → ∀ fs n,
        ∀ f ∈ (Report.aggregate fs settings.overrides n).findings, f.rule = r.name → f.severity = s) ∧
      (¬ Text.Solid r.name.toList →
        settings.overrides.get? r.name = lastLevel? (config?.getD .empty).severities r.name)) ∧
    ∀ text, (∃ e, readFlag text = .error e) ↔
      '=' ∉ text.toList ∨ ∃ before after, text.toList = before ++ '=' :: after ∧ '=' ∉ after ∧
        ((∀ c ∈ before, Text.isBlank c = true) ∨ ∃ e, Severity.read (String.ofList after) = .error e) := by
  intro flag
  have hname : Text.trim r.name ≠ "" := by
    rcases Profile.register_cases .empty r with ⟨htrim, -⟩ | ⟨e, -, he⟩
    · exact htrim
    · rw [he] at hr
      cases hr
  have hflag : readFlag flag = .ok (Text.trim r.name, s) := readFlag_append hname hlevel
  have hsame : readFlag flag = .ok (r.name, s) ↔ Text.Solid r.name.toList := by
    rw [hflag, ← Text.trim_eq_self_iff, Except.ok.injEq, Prod.mk.injEq, and_iff_left rfl]
  refine ⟨hflag, hsame, ?_, ?_, fun text => exists_readFlag_error_iff⟩
  · exact ⟨fun ⟨_, _, h⟩ => solid_of_readFlag h, fun h => ⟨flag, s, hsame.mpr h⟩⟩
  · intro texts dir config? request settings hflags hsettings
    refine ⟨?_, get?_overrides_of_not_solid hflags hsettings⟩
    intro hsolid hlast fs n f hf hrule
    exact severity_of_last_flag hflags hsettings hlast (hsame.mpr hsolid) hf hrule

/-- A name with equals signs and white space inside. -/
theorem readFlag_of_registered_iff_equals :
    let r : Rule := ⟨"a= b=", .info, "", fun _ => .findings [], fun _ => []⟩
    Profile.empty.register r = .ok ⟨[r]⟩ ∧ Severity.read " Warn" = .ok .warning ∧
      readFlag (r.name ++ "=" ++ " Warn") = .ok (r.name, .warning) := by
  intro r
  have hr : Profile.empty.register r = .ok ⟨[r]⟩ := Profile.register_of_fresh (by decide +kernel) List.not_mem_nil
  have hlevel : Severity.read " Warn" = .ok .warning := by decide +kernel
  obtain ⟨-, hsame, -⟩ := readFlag_of_registered_iff hr hlevel
  exact ⟨hr, hlevel, hsame.mpr (Text.trim_eq_self_iff.mp (by decide +kernel))⟩

/-- The rule of a policy that no flag is about, since its name starts with a blank. -/
theorem readFlag_ne_of_registered :
    let entry : PolicyEntry := ⟨" r", String.ofList ['*'], .forbidden, none, none⟩
    ∃ p, Profile.ofPolicy [entry] = .ok p ∧ p.names = [" r"] ∧ Severity.read "error" = .ok .error ∧
      readFlag (" r" ++ "=" ++ "error") ≠ .ok (" r", .error) := by
  intro entry
  let check : Check := ⟨" r", .error, none, ⟨String.ofList ['*'], [.any]⟩, .forbidden⟩
  have hcompile : entry.compile = .ok check := PolicyEntry.compile_forbidden_everywhere " r" none
  have hregister : Profile.empty.register check.toRule = .ok ⟨[check.toRule]⟩ :=
    Profile.register_of_fresh (by decide +kernel) List.not_mem_nil
  refine ⟨⟨[check.toRule]⟩, ?_, rfl, by decide +kernel, by decide +kernel⟩
  simp only [Profile.ofPolicy, Profile.extend, hcompile, hregister]

end DocLint
