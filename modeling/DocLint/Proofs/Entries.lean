import DocLint.Files.Tree
import DocLint.Proofs.Command

/-!
# Proofs: files named by entries

`expand_targets` means an entry without wildcards to stand for itself, so that a file that is not there is complained
of. But it is looked at together with the directory that it is relative to: where there is a wildcard in the name of
that directory, the whole name is a pattern, and the entry stands for what the pattern matches. So the entry is a
target whatever files there are exactly if it is not relative to such a directory (`plain_entry_told_iff`). Of every
target, a run tells why it cannot be read or what is found in it.
-/

namespace DocLint

/-! ## Patterns where there are no files -/

/-- The file system without files. -/
def noFiles : Files Id where
  kind? _ := none
  read _ := .error .notFound
  entries _ := []

namespace Glob

theorem expandDeep_noFiles (walk : FileName → Id (List FileName)) (next : Option (List Token)) (fuel : Nat)
    (dir : FileName) : expandDeep noFiles walk next fuel dir = [] := by
  cases fuel <;> rfl

/-- Where there are no files, a pattern with a part matches nothing. -/
theorem expand_noFiles (directoryOnly : Bool) (part : List Token) (parts : List (List Token)) (dir : FileName) :
    expand noFiles directoryOnly (part :: parts) dir = [] := by
  rw [expand.eq_def]
  simp only [bind, pure]
  split
  · split <;> rfl
  · split
    · split <;> exact expandDeep_noFiles ..
    · have hspecial : (specialNames part).mapM (fun _ => (pure [] : Id (List FileName))) =
          (specialNames part).map fun _ => [] := List.mapM_pure ..
      have hnone : ((specialNames part).map fun _ => ([] : List FileName)).flatten = [] := by simp
      exact (congrArg List.flatten hspecial).trans hnone

theorem collapse_ne_nil {ps : List (List Token)} (h : ps ≠ []) : collapse ps ≠ [] := by
  fun_induction collapse ps with
  | case1 r ih => exact ih (List.cons_ne_nil _ _)
  | case2 p r _ _ => exact List.cons_ne_nil _ _
  | case3 => exact h

theorem splitParts_ne_nil {cs : List Char} (h : cs ≠ []) : splitParts cs ≠ [] := by
  intro hnil
  unfold splitParts at hnil
  simp only at hnil
  split at hnil
  · case isTrue hlast =>
    obtain ⟨init, hinit⟩ := List.getLast?_eq_some_iff.mp hlast
    rw [hinit, List.dropLast_concat] at hnil
    have hwhole : ['/'].intercalate (cs.splitOn '/') = cs := List.intercalate_splitOn '/'
    rw [hinit, hnil] at hwhole
    exact h hwhole.symm
  · exact List.splitOn_ne_nil '/' cs hnil

theorem parts_ne_nil {pattern : String} {p : Parts} (h : readParts pattern = .ok p) (hne : pattern.toList ≠ []) :
    p.parts ≠ [] := by
  have hread : ∀ {xs : List (List Char)} {ys : List (List Token)}, xs.mapM read = .ok ys → xs ≠ [] → ys ≠ [] := by
    rintro xs ys hys hxs rfl
    exact hxs (List.length_eq_zero_iff.mp (forall₂_of_mapM hys).length_eq)
  unfold readParts at h
  simp only at h
  obtain ⟨_, -, h⟩ := bind_eq_ok_iff.mp h
  obtain ⟨parts, hparts, h⟩ := bind_eq_ok_iff.mp h
  cases h
  obtain ⟨c, r, hcs⟩ := List.exists_cons_of_ne_nil hne
  rw [hcs] at hparts ⊢
  by_cases hslash : c = '/'
  · cases r with
    | nil => simp [hslash]
    | cons d r =>
      have hrest : parts ≠ [] := hread hparts (splitParts_ne_nil (by simp [hslash]))
      simpa [hslash] using hrest
  · have hwhole : parts ≠ [] := hread hparts (splitParts_ne_nil (by simp [hslash]))
    simpa [hslash] using hwhole

theorem files_noFiles {pattern : String} {p : Parts} (h : readParts pattern = .ok p) (hne : pattern.toList ≠ []) :
    files noFiles p = [] := by
  obtain ⟨part, parts, hparts⟩ := List.exists_cons_of_ne_nil (collapse_ne_nil (parts_ne_nil h hne))
  rw [files, hparts, expand_noFiles]

/-- A file in a directory with a bracket in its name, and one of the same name in a directory that the bracket
matches. -/
def bracketedDirectories : FileTree :=
  .directory [
    ("r[x]", .directory [("d.json", .file ByteArray.empty)]),
    ("rx", .directory [("d.json", .file ByteArray.empty)])]

/-- The name of the one file is a pattern that matches the other one. -/
theorem exists_parts_bracketedDirectories :
    ∃ parts, readParts "r[x]/d.json" = .ok parts ∧
      files (FileTree.World.mk bracketedDirectories []).files parts = [⟨"rx/d.json"⟩] := by
  let fs := (FileTree.World.mk bracketedDirectories []).files
  let bracket : List Glob.Token := [.char 'r', .within [.char 'x']]
  let name : List Glob.Token := [.char 'd', .char '.', .char 'j', .char 's', .char 'o', .char 'n']
  refine ⟨⟨⟨"."⟩, [bracket, name], false⟩, rfl, ?_⟩
  have hentries : entriesOf fs ⟨"."⟩ = ["r[x]", "rx"] := by
    have hdir : isDirectory fs ⟨"."⟩ = true := rfl
    simp only [entriesOf, hdir, bind, pure, if_true]
    exact List.mergeSort_of_pairwise (by decide +kernel)
  have hmatches : matchName bracket "r[x]".toList = false ∧ matchName bracket "rx".toList = true := by
    simp [matchName, SetItem.holds, bracket]
  have hcollapse : collapse [bracket, name] = [bracket, name] := rfl
  have hliteral : literal? bracket = none := rfl
  have hspecial : specialNames bracket = [] := rfl
  have hname : entryName ⟨"."⟩ "rx" = ⟨"rx"⟩ := rfl
  rw [files, hcollapse, expand.eq_def]
  simp only [hliteral, hspecial, bind, pure]
  rw [hentries]
  simp only [List.mapM_cons, List.mapM_nil, hmatches, hname, bind, pure]
  rfl

end Glob

namespace Targets

/-! ## What entries stand for -/

theorem isPattern_child (dir : FileName) {entry : String} (h : FileName.isAbsolute ⟨entry⟩ = false) :
    isPattern (dir.child entry) = (isPattern dir || isPattern ⟨entry⟩) := by
  have hslash : isWildcard '/' = false := by decide
  simp only [FileName.child, FileName.join, h, Bool.false_eq_true, if_false]
  split <;> simp [isPattern, hslash]

/-- The name of an entry without wildcards is a pattern exactly if it is relative to a directory with one in its
name. -/
theorem isPattern_place_iff {entry : String} (hplain : isPattern ⟨entry⟩ = false) {dir? : Option FileName} :
    isPattern (place dir? entry) = true ↔
      ∃ dir, dir? = some dir ∧ FileName.isAbsolute ⟨entry⟩ = false ∧ isPattern dir = true := by
  cases dir? with
  | none => simp [place, hplain]
  | some dir =>
    cases habs : FileName.isAbsolute ⟨entry⟩ with
    | true => simp [place, FileName.child, FileName.join, habs, hplain]
    | false => simp [place, isPattern_child dir habs, hplain]

/-- The names that an entry stands for. -/
inductive StandsFor (fs : Files Id) (dir? : Option FileName) (entry : String) : FileName → Prop where
  /-- Without wildcards in its name, for that name. -/
  | itself (h : isPattern (place dir? entry) = false) : StandsFor fs dir? entry (place dir? entry)
  /-- With some, for the names that match. -/
  | matched {parts : Glob.Parts} {n : FileName} (h : isPattern (place dir? entry) = true)
      (hparts : Glob.readParts (place dir? entry).text = .ok parts) (hn : n ∈ (Glob.files fs parts).run) :
      StandsFor fs dir? entry n

section
variable {fs : Files Id} {dir? : Option FileName}

theorem mem_expandEntry {entry : String} {names : List FileName} (h : expandEntry fs dir? entry = .ok names)
    {n : FileName} : n ∈ names ↔ StandsFor fs dir? entry n := by
  unfold expandEntry at h
  simp only [bind, pure] at h
  split at h
  · case isTrue hpattern =>
    split at h
    · cases h
    · case h_2 parts hparts =>
      cases h
      refine ⟨.matched hpattern hparts, fun hn => ?_⟩
      cases hn with
      | itself hplain => simp [hplain] at hpattern
      | matched _ hparts' hn =>
        cases hparts.symm.trans hparts'
        exact hn
  · case isFalse hplain =>
    cases h
    rw [List.mem_singleton]
    constructor
    · rintro rfl
      exact .itself (Bool.eq_false_iff.mpr hplain)
    · intro hn
      cases hn with
      | itself => rfl
      | matched hpattern => exact absurd hpattern hplain

theorem expandEntries_cons_eq_ok {entry : String} {entries : List String} {names : List FileName}
    (h : expandEntries fs dir? (entry :: entries) = .ok names) :
    ∃ here others, expandEntry fs dir? entry = .ok here ∧ expandEntries fs dir? entries = .ok others ∧
      names = here ++ others := by
  unfold expandEntries at h
  simp only [bind, pure] at h
  split at h
  · cases h
  · case h_2 here hhere =>
    split at h
    · cases h
    · case h_2 others hothers =>
      cases h
      exact ⟨here, others, hhere, hothers, rfl⟩

theorem mem_expandEntries {entries : List String} {names : List FileName}
    (h : expandEntries fs dir? entries = .ok names) {n : FileName} :
    n ∈ names ↔ ∃ entry ∈ entries, StandsFor fs dir? entry n := by
  induction entries generalizing names with
  | nil =>
    cases h
    simp
  | cons entry entries ih =>
    obtain ⟨here, others, hhere, hothers, rfl⟩ := expandEntries_cons_eq_ok h
    rw [List.mem_append, mem_expandEntry hhere, ih hothers, List.exists_mem_cons_iff]

/-- Where there are targets, every entry can be read. -/
theorem exists_expandEntry {entries : List String} {names : List FileName}
    (h : expandEntries fs dir? entries = .ok names) {entry : String} (hentry : entry ∈ entries) :
    ∃ here, expandEntry fs dir? entry = .ok here := by
  induction entries generalizing names with
  | nil => cases hentry
  | cons first entries ih =>
    obtain ⟨here, others, hhere, hothers, -⟩ := expandEntries_cons_eq_ok h
    rcases List.mem_cons.mp hentry with rfl | hentry
    · exact ⟨here, hhere⟩
    · exact ih hothers hentry

theorem exists_parts_of_expandEntry {entry : String} (h : isPattern (place dir? entry) = true)
    {here : List FileName} (hhere : expandEntry fs dir? entry = .ok here) :
    ∃ parts, Glob.readParts (place dir? entry).text = .ok parts := by
  simp only [expandEntry, h, if_true, pure] at hhere
  split at hhere
  · cases hhere
  · case h_2 parts hparts => exact ⟨parts, hparts⟩

/-- Targets are what the entries stand for, in order and each in one spelling. -/
theorem exists_names_of_expand {entries : List String} {ts : List FileName} (h : expand fs dir? entries = .ok ts) :
    ∃ names, expandEntries fs dir? entries = .ok names ∧ ts = ofNames names := by
  unfold expand at h
  simp only [bind, pure] at h
  obtain ⟨names, hnames, rfl⟩ := map_eq_ok_iff.mp h
  exact ⟨names, hnames, rfl⟩

theorem Ordered.nodup {ts : List FileName} (h : Ordered ts) : ts.Nodup := by
  refine List.Pairwise.imp ?_ h
  rintro t _ hlt rfl
  rw [show FileName.compare t t = .eq from Std.ReflCmp.compare_self] at hlt
  cases hlt

end

/-- An entry that is relative to a directory with a wildcard in its name, and with it a pattern that can be read. -/
def Swallowed (dir? : Option FileName) (entry : String) : Prop :=
  ∃ dir parts, dir? = some dir ∧ FileName.isAbsolute ⟨entry⟩ = false ∧ isPattern dir = true ∧
    Glob.readParts (dir.child entry).text = .ok parts

/-- Where there are no files, such an entry is dropped. -/
theorem expand_of_swallowed {dir? : Option FileName} {entry : String} (h : Swallowed dir? entry) :
    expand noFiles dir? [entry] = .ok [] := by
  obtain ⟨dir, parts, rfl, habs, hpattern, hparts⟩ := h
  have hname : isPattern (place (some dir) entry) = true := by
    rw [place, isPattern_child dir habs, hpattern, Bool.true_or]
  have hne : (dir.child entry).text.toList ≠ [] := by
    intro hnil
    simp [place, isPattern, hnil] at hname
  have hentry : expandEntry noFiles (some dir) entry = .ok [] := by
    simp only [expandEntry, hname, if_true]
    simp only [place, hparts, bind, pure, Glob.files_noFiles hparts hne]
  simp only [expand, expandEntries, bind, pure, hentry]
  rfl

/-- An entry without wildcards is a target, whatever files there are, exactly if it is not swallowed. -/
theorem forall_exists_target_iff {entry : String} (hplain : isPattern ⟨entry⟩ = false) (dir? : Option FileName) :
    (∀ (fs : Files Id) entries ts, entry ∈ entries → expand fs dir? entries = .ok ts →
      ∃ t ∈ ts, FileName.compare (place dir? entry) t = .eq) ↔ ¬ Swallowed dir? entry := by
  constructor
  · intro h hswallowed
    obtain ⟨t, ht, -⟩ := h noFiles [entry] [] (List.mem_singleton_self entry) (expand_of_swallowed hswallowed)
    cases ht
  · intro h fs entries ts hentry hts
    obtain ⟨names, hnames, rfl⟩ := exists_names_of_expand hts
    refine exists_mem_ofNames ((mem_expandEntries hnames).mpr ⟨entry, hentry, .itself ?_⟩)
    -- There are targets, so if the whole name were a pattern it could be read.
    refine Bool.eq_false_iff.mpr fun hpattern => h ?_
    obtain ⟨here, hhere⟩ := exists_expandEntry hnames hentry
    obtain ⟨parts, hparts⟩ := exists_parts_of_expandEntry hpattern hhere
    obtain ⟨dir, rfl, habs, hdir⟩ := (isPattern_place_iff hplain).mp hpattern
    exact ⟨dir, parts, rfl, habs, hdir, hparts⟩

end Targets

/-! ## What a run tells of targets -/

namespace Command

section
variable {fs : Files Id} {s : Settings} {p : Profile} {colours : Bool}

/-- The entries that a run goes by and the directory that they are relative to: the files that are named, and if none
is, those that the settings mean. -/
def chosenEntries (s : Settings) (files : List String) : Option FileName × List String :=
  if files.isEmpty then (some s.root, s.patterns) else (none, files)

theorem expand_of_targets {files : List String} {ts : List FileName} (h : targets fs s files = .ok ts) :
    Targets.expand fs (chosenEntries s files).1 (chosenEntries s files).2 = .ok ts := by
  cases hempty : files.isEmpty with
  | _ =>
    simp only [targets, chosenEntries, hempty, Bool.false_eq_true, if_true, if_false, bind, pure] at h ⊢
    split at h
    · cases h
    · cases h
    · case h_3 ts' _ hts =>
      cases h
      exact hts

/-- A run tells of a target: it complains that there is no document and ends in trouble, or it reports on the
document. -/
inductive Tells (fs : Files Id) (s : Settings) (p : Profile) (colours : Bool) (told : Transcript) (t : FileName) :
    Prop where
  /-- There is no document. -/
  | complaint {e : Trouble} {before after : String} (h : load fs t = .error e)
      (hremarks : told.remarks = before ++ complaint colours e.message ++ after) (hstatus : told.status = .trouble)
  /-- There is one, and its report is one of those that are put out. -/
  | report {d : Document} {r : Report} {reports : List (String × Report)} (h : load fs t = .ok d)
      (hr : lintWith undisturbed s.mode p s.overrides d = some r) (hmem : (t.text, r) ∈ reports)
      (houtput : told.output = s.output.render colours reports)

/-- A run tells of each of its targets. -/
theorem tells_lintTargets {ts : List FileName} {t : FileName} (ht : t ∈ ts) :
    Tells fs s p colours (lintTargets fs colours s p ts) t := by
  cases hload : load fs t with
  | error e =>
    have htrouble : trouble? fs s p t = some e := by simp [trouble?, outcome, hload, Except.map]
    have hmem : e ∈ ts.filterMap (trouble? fs s p) := List.mem_filterMap.mpr ⟨t, ht, htrouble⟩
    obtain ⟨before, after, hsplit⟩ := List.append_of_mem hmem
    have hremarks : (lintTargets fs colours s p ts).remarks =
        (defaultsNote colours s ++ complaints colours before) ++ complaint colours e.message ++
          complaints colours after := by
      rw [lintTargets_eq, told, hsplit]
      simp [complaints, String.join_append, String.join_cons, String.append_assoc]
    refine .complaint hload hremarks ?_
    rw [status_lintTargets, worst_eq_trouble_iff]
    exact List.mem_map.mpr ⟨t, ht, status_eq_trouble_iff.mpr ⟨e, hload⟩⟩
  | ok d =>
    have hreport := lintWith_undisturbed s.mode p s.overrides d
    refine .report hload hreport (List.mem_filterMap.mpr ⟨t, ht, reportOf?_of_load hload hreport⟩) ?_
    rw [lintTargets_eq, told]

/-- Targets are strictly in order, and each is what an entry stands for. An entry without wildcards is itself a target,
in one spelling or another, whatever files and other entries there are, exactly if it is not swallowed by the name of
the directory that it is relative to. In a run, such an entry is reported on, or complained of as it cannot be read,
and then the run ends in trouble. An entry that is swallowed is dropped where there are no files. -/
theorem plain_entry_told_iff {entry : String} (hplain : Targets.isPattern ⟨entry⟩ = false) (dir? : Option FileName) :
    let name := Targets.place dir? entry
    (∀ fs entries ts, Targets.expand fs dir? entries = .ok ts →
      ts.Pairwise (fun t u => FileName.compare t u = .lt) ∧ ts.Nodup ∧
        ∀ t ∈ ts, ∃ e ∈ entries, Targets.StandsFor fs dir? e t) ∧
    ((∀ (fs : Files Id) entries ts, entry ∈ entries → Targets.expand fs dir? entries = .ok ts →
      ∃ t ∈ ts, FileName.compare name t = .eq) ↔ ¬ Targets.Swallowed dir? entry) ∧
    (∀ fs colours files i s p ts, settings fs i = .ok s → profile fs s = .ok p → targets fs s files = .ok ts →
      (chosenEntries s files).1 = dir? → entry ∈ (chosenEntries s files).2 → ¬ Targets.Swallowed dir? entry →
      ∃ t ∈ ts, FileName.compare name t = .eq ∧ Tells fs s p colours (run fs colours (.lint files i)) t) ∧
    (Targets.Swallowed dir? entry → Targets.expand noFiles dir? [entry] = .ok []) := by
  intro name
  have hkept := Targets.forall_exists_target_iff hplain dir?
  refine ⟨?_, hkept, ?_, Targets.expand_of_swallowed⟩
  · intro fs entries ts hts
    obtain ⟨names, hnames, rfl⟩ := Targets.exists_names_of_expand hts
    have hordered : Targets.Ordered (Targets.ofNames names) := Targets.ordered_ofNames names
    refine ⟨hordered, hordered.nodup, fun t ht => ?_⟩
    exact (Targets.mem_expandEntries hnames).mp (Targets.mem_of_mem_ofNames ht)
  · intro fs colours files i s p ts hs hp hts hdir hentry hsafe
    have hexpand := expand_of_targets hts
    rw [hdir] at hexpand
    obtain ⟨t, ht, heq⟩ := hkept.mpr hsafe fs _ ts hentry hexpand
    refine ⟨t, ht, heq, ?_⟩
    have hrun : run fs colours (.lint files i) = lintTargets fs colours s p ts := by
      simp only [run, bind, hs, hp, hts]
    rw [hrun]
    exact tells_lintTargets ht

end

/-- An entry in a directory whose name has a blank and a dot in it. -/
theorem plain_entry_told_iff_blank :
    Targets.isPattern ⟨"d.json"⟩ = false ∧ ∀ (fs : Files Id) entries ts, "d.json" ∈ entries →
      Targets.expand fs (some ⟨"a b.c"⟩) entries = .ok ts → ∃ t ∈ ts, FileName.compare ⟨"a b.c/d.json"⟩ t = .eq := by
  have hplain : Targets.isPattern ⟨"d.json"⟩ = false := by decide +kernel
  obtain ⟨-, hkept, -⟩ := plain_entry_told_iff hplain (some ⟨"a b.c"⟩)
  refine ⟨hplain, hkept.mpr ?_⟩
  rintro ⟨dir, parts, hdir, -, hpattern, -⟩
  cases hdir
  revert hpattern
  decide +kernel

/-- The file of the other directory is a target, and the one that is meant is none. -/
theorem plain_entry_not_told :
    let fs := (FileTree.World.mk Glob.bracketedDirectories []).files
    let dir : FileName := ⟨"r[x]"⟩
    Targets.isPattern ⟨"d.json"⟩ = false ∧ fs.kind? (dir.child "d.json") = some .file ∧
      Targets.expand fs (some dir) ["d.json"] = .ok [⟨"rx/d.json"⟩] ∧
      FileName.compare (dir.child "d.json") ⟨"rx/d.json"⟩ ≠ .eq := by
  intro fs dir
  have hthere : (fs.kind? (dir.child "d.json")).run = some .file := by decide +kernel
  refine ⟨by decide +kernel, hthere, ?_, by decide +kernel⟩
  obtain ⟨parts, hparts, hfiles⟩ := Glob.exists_parts_bracketedDirectories
  have hname : dir.child "d.json" = ⟨"r[x]/d.json"⟩ := by decide +kernel
  have hpattern : Targets.isPattern ⟨"r[x]/d.json"⟩ = true := by decide +kernel
  simp only [Targets.expand, Targets.expandEntries, Targets.expandEntry, Targets.place, hname, hpattern, hparts,
    if_true, bind, pure, fs, hfiles]
  rfl

end Command

end DocLint
