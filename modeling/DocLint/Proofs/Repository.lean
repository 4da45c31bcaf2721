import DocLint.Settings
import DocLint.Proofs.Files.Tree
import Mathlib.Data.List.Find

/-!
# Proofs: the directory of a repository

`detect_repo_root` goes up from a start by taking the last steps off its name. So what is found is the nearest marked
directory above the start only where the name starts at the root, or as far as its steps go: from a relative name
nothing above the present directory is looked at, and a name with `..` in it has beginnings that lead to directories
that the start is not in. What is found depends, in each case, on the directory only and not on its name.
-/

namespace DocLint

open FileTree

namespace FileTree.World

/-- A directory that has an entry that only the directory of a repository has. -/
def Marked (w : World) (place : List String) : Prop :=
  ∃ mark ∈ Settings.rootMarks, (w.tree.at? (place ++ [mark])).isSome

/-- A name leads to the nearest marked directory among the one at a place and those it is in. If there is none, the name
is the start. -/
def NearestRoot (w : World) (start : FileName) (place : List String) (found : FileName) : Prop :=
  (∃ dir, dir <+: place ∧ w.LeadsTo found dir ∧ w.Marked dir ∧
      ∀ other, other <+: place → dir.length < other.length → ¬ w.Marked other) ∨
    (found = start ∧ ∀ dir, dir <+: place → ¬ w.Marked dir)

/-- A name leads to where the longest beginning of the start leads that leads to a marked directory. If there is none,
the name is the start. -/
def LastMarkedBeginning (w : World) (start found : FileName) : Prop :=
  (∃ q, q <+: start.steps ∧ w.LeadsTo found (w.along start q) ∧ w.Marked (w.along start q) ∧
      ∀ q', q' <+: start.steps → q.length < q'.length → ¬ w.Marked (w.along start q')) ∨
    (found = start ∧ ∀ q, q <+: start.steps → ¬ w.Marked (w.along start q))

variable {w : World}

theorem find_mark {dir : FileName} {place : List String} (h : w.LeadsTo dir place) {mark : String}
    (hmark : mark ∈ Settings.rootMarks) :
    w.find (dir.child mark) =
      match w.tree.at? (place ++ [mark]) with
      | some t => .ok t
      | none => .error .notFound := by
  have hplain : ∀ mark ∈ Settings.rootMarks,
      '/' ∉ mark.toList ∧ FileName.componentOf? mark.toList = some (.entry mark) := by decide
  obtain ⟨hslash, hentry⟩ := hplain mark hmark
  exact find_child h hslash hentry

theorem has_mark_iff {dir : FileName} {place : List String} (h : w.LeadsTo dir place) {mark : String}
    (hmark : mark ∈ Settings.rootMarks) :
    w.files.has (dir.child mark) = true ↔ (w.tree.at? (place ++ [mark])).isSome := by
  rw [has_eq, find_mark h hmark]
  cases w.tree.at? (place ++ [mark]) with
  | none => rfl
  | some t => rfl

theorem isRoot_iff {dir : FileName} {place : List String} (h : w.LeadsTo dir place) :
    Settings.isRoot w.files dir = true ↔ w.Marked place := by
  have hany : Settings.isRoot w.files dir = Settings.rootMarks.any fun mark => w.files.has (dir.child mark) :=
    List.anyM_pure
  rw [hany, List.any_eq_true, Marked]
  refine exists_congr fun mark => and_congr_right fun hmark => ?_
  exact has_mark_iff h hmark

end FileTree.World

namespace Settings

variable {w : World} {start : FileName} {place : List String}

theorem detectRoot_eq (w : World) (start : FileName) :
    detectRoot w.files start = (start.selfAndAncestors.find? (isRoot w.files)).getD start := by
  have hfind := List.idRun_findM? (isRoot w.files) start.selfAndAncestors
  exact congrArg (·.getD start) hfind

/-- Going up a name, the directory that is found is the one of the longest beginning that leads to a marked one. -/
theorem lastMarkedBeginning_detectRoot (h : w.LeadsTo start place) :
    w.LastMarkedBeginning start (detectRoot w.files start) := by
  have hfuel : start.text.length ≤ start.text.length + 1 := Nat.le_succ _
  have hlongest := FileName.find_ancestors (P := isRoot w.files) (Q := fun q => w.Marked (w.along start q)) hfuel
    fun a habs hsteps => World.isRoot_iff (h.of_prefix habs hsteps)
  rw [detectRoot_eq, FileName.selfAndAncestors]
  generalize (FileName.ancestors (start.text.length + 1) start).find? (isRoot w.files) = found at hlongest ⊢
  cases found with
  | none => exact .inr ⟨rfl, hlongest⟩
  | some a =>
    obtain ⟨habs, hsteps, hmarked, hlast⟩ := hlongest
    exact .inl ⟨a.steps, hsteps, h.of_prefix habs hsteps, hmarked, hlast⟩

/-- Without `..` in it, a name comes by all directories between where it starts and where it leads, and by no others. -/
theorem along_iff_of_no_up (h : w.LeadsTo start place) (hup : Component.up ∉ start.steps) (dir : List String) :
    (∃ q, q <+: start.steps ∧ w.along start q = dir) ↔ w.base start <+: dir ∧ dir <+: place := by
  obtain ⟨names, hnames⟩ := FileName.exists_names_of_no_up hup
  have hplace : place = w.base start ++ names := by
    rw [(World.leadsTo_iff.mp h).1, World.along, hnames, World.foldl_move_names]
  rw [hplace]
  constructor
  · rintro ⟨q, hq, rfl⟩
    rw [hnames] at hq
    obtain ⟨front, hfront, rfl⟩ := List.prefix_map_iff.mp hq
    rw [World.along, World.foldl_move_names]
    exact ⟨List.prefix_append _ _, (List.prefix_append_right_inj _).mpr hfront⟩
  · rintro ⟨⟨front, rfl⟩, hbelow⟩
    have hfront : front <+: names := (List.prefix_append_right_inj _).mp hbelow
    refine ⟨front.map .entry, ?_, ?_⟩
    · rw [hnames]
      exact hfront.map _
    · rw [World.along, World.foldl_move_names]

theorem length_along_of_no_up {q : List Component} (hup : Component.up ∉ start.steps) (hq : q <+: start.steps) :
    (w.along start q).length = (w.base start).length + q.length := by
  obtain ⟨names, hnames⟩ := FileName.exists_names_of_no_up hup
  rw [hnames] at hq
  obtain ⟨front, -, rfl⟩ := List.prefix_map_iff.mp hq
  rw [World.along, World.foldl_move_names, List.length_append, List.length_map]

/-- Without `..` in it, a name is gone up as far as to where it starts, and above that there must be nothing to find. -/
theorem nearestRoot_iff_of_no_up (h : w.LeadsTo start place) (hup : Component.up ∉ start.steps) :
    w.NearestRoot start place (detectRoot w.files start) ↔
      (∃ dir, w.base start <+: dir ∧ dir <+: place ∧ w.Marked dir) ∨ ∀ dir, dir <+: w.base start → ¬ w.Marked dir := by
  have hbetween := along_iff_of_no_up h hup
  have hbase : w.base start <+: place := ((hbetween _).mp ⟨[], List.nil_prefix, rfl⟩).2
  rcases lastMarkedBeginning_detectRoot h with ⟨q, hq, hfound, hmarked, hlast⟩ | ⟨hfound, hnone⟩
  · obtain ⟨hafter, hbelow⟩ := (hbetween _).mp ⟨q, hq, rfl⟩
    have hnearest : w.NearestRoot start place (detectRoot w.files start) := by
      refine .inl ⟨_, hbelow, hfound, hmarked, ?_⟩
      intro other hother hlonger
      have hfrom : w.base start <+: other :=
        List.prefix_of_prefix_length_le hbase hother (hafter.length_le.trans hlonger.le)
      obtain ⟨q', hq', rfl⟩ := (hbetween other).mpr ⟨hfrom, hother⟩
      refine hlast q' hq' ?_
      rw [length_along_of_no_up hup hq, length_along_of_no_up hup hq'] at hlonger
      omega
    exact iff_of_true hnearest (.inl ⟨_, hafter, hbelow, hmarked⟩)
  · have hunmarked (dir : List String) (hfrom : w.base start <+: dir) (hdir : dir <+: place) : ¬ w.Marked dir := by
      obtain ⟨q, hq, rfl⟩ := (hbetween dir).mpr ⟨hfrom, hdir⟩
      exact hnone q hq
    constructor
    · rintro (⟨dir, hdir, hleads, hmarked, -⟩ | ⟨-, hall⟩)
      · rw [hfound] at hleads
        obtain rfl := hleads.unique h
        exact absurd hmarked (hunmarked _ hbase hdir)
      · exact .inr fun dir hdir => hall dir (hdir.trans hbase)
    · rintro (⟨dir, hfrom, hdir, hmarked⟩ | habove)
      · exact absurd hmarked (hunmarked dir hfrom hdir)
      · refine .inr ⟨hfound, ?_⟩
        intro dir hdir
        rcases List.prefix_or_prefix_of_prefix hdir hbase with hshort | hlong
        · exact habove dir hshort
        · exact hunmarked dir hlong hdir

/-- A name that starts at the root is gone up as far as to the root. -/
theorem nearestRoot_of_isAbsolute (h : w.LeadsTo start place) (hup : Component.up ∉ start.steps)
    (habs : start.isAbsolute = true) : w.NearestRoot start place (detectRoot w.files start) := by
  rw [nearestRoot_iff_of_no_up h hup, World.base, if_pos habs]
  by_cases hsome : ∃ dir, [] <+: dir ∧ dir <+: place ∧ w.Marked dir
  · exact .inl hsome
  · refine .inr ?_
    intro dir hdir hmarked
    rw [List.prefix_nil] at hdir
    exact hsome ⟨dir, List.nil_prefix, hdir ▸ List.nil_prefix, hmarked⟩

/-- A marked directory is its own repository, however it is named. -/
theorem detectRoot_of_marked (h : w.LeadsTo start place) (hmarked : w.Marked place) :
    detectRoot w.files start = start := by
  have hself := (World.isRoot_iff h).mpr hmarked
  rw [detectRoot_eq, FileName.selfAndAncestors, FileName.ancestors]
  split
  · rw [List.find?_cons_of_pos hself]
    rfl
  · rw [List.find?_cons_of_pos hself]
    rfl

/-! ## The configuration -/

theorem readConfig_congr {a b : FileName} (h : w.find a = w.find b) (format : ConfigFormat) (c : Config) :
    readConfig w.files a format = .ok c ↔ readConfig w.files b format = .ok c := by
  have hread : w.files.read a = w.files.read b := by simp only [World.files, h]
  have hmap (e : Except ConfigError Config) (f : ConfigError → SettingsError) :
      e.mapError f = .ok c ↔ e = .ok c := by
    cases e <;> simp [Except.mapError]
  unfold readConfig
  rw [hread]
  rcases w.files.read b with e | source
  · constructor
    · intro ha
      cases ha
    · intro hb
      cases hb
  · exact (hmap _ _).trans (hmap _ _).symm

theorem loadConfig_eq (w : World) (root : FileName) :
    loadConfig w.files root =
      match configFiles.find? fun f => w.files.has (root.child f.1) with
      | none => .ok none
      | some (name, format) => (readConfig w.files (root.child name) format).map some := by
  have hfind := List.idRun_findM? (fun f : String × ConfigFormat => w.files.has (root.child f.1)) configFiles
  unfold loadConfig
  change (match (configFiles.findM? fun f : String × ConfigFormat => w.files.has (root.child f.1)).run with
    | none => _
    | some (name, format) => _) = _
  rw [hfind]
  rfl

/-- What the configuration says depends on the directory, and not on how it is named. -/
theorem loadConfig_congr {a b : FileName} (ha : w.LeadsTo a place) (hb : w.LeadsTo b place) (c : Option Config) :
    loadConfig w.files a = .ok c ↔ loadConfig w.files b = .ok c := by
  have hmark : ∀ f ∈ configFiles, f.1 ∈ rootMarks := by decide
  have hsame : ∀ f ∈ configFiles, w.find (a.child f.1) = w.find (b.child f.1) := by
    intro f hf
    rw [World.find_mark ha (hmark f hf), World.find_mark hb (hmark f hf)]
  have hchoice : configFiles.find? (fun f => w.files.has (a.child f.1)) =
      configFiles.find? fun f => w.files.has (b.child f.1) := by
    refine List.find?_congr ?_
    intro f hf
    rw [World.has_eq, World.has_eq, hsame f hf]
  rw [loadConfig_eq, loadConfig_eq, hchoice]
  cases hchosen : configFiles.find? fun f => w.files.has (b.child f.1) with
  | none => exact Iff.rfl
  | some f =>
    have hread := readConfig_congr (hsame f (List.mem_of_find?_eq_some hchosen)) f.2
    have hsome (e : Except SettingsError Config) : e.map some = .ok c ↔ ∃ config, e = .ok config ∧ some config = c := by
      cases e <;> simp [Except.map]
    refine (hsome _).trans (Iff.trans ?_ (hsome _).symm)
    exact exists_congr fun config => and_congr_left' (hread config)

/-! ## What is found -/

/-- The directory that is found is the one of the longest beginning of the start's steps that leads to a marked one.
Without `..` this is the nearest one if and only if the start is written from the root, or there is a marked directory
as far up as the present one, or there is none above that. A marked directory that is found is found under any name of
it, and with the same configuration. -/
theorem detectRoot_nearest_iff (h : w.LeadsTo start place) :
    let found := detectRoot w.files start
    w.LastMarkedBeginning start found ∧
      (Component.up ∉ start.steps →
        (w.NearestRoot start place found ↔
          start.isAbsolute = true ∨ (∃ dir, w.present <+: dir ∧ dir <+: place ∧ w.Marked dir) ∨
            ∀ dir, dir <+: w.present → ¬ w.Marked dir)) ∧
      ∀ repo dir, w.LeadsTo found dir → w.Marked dir → w.LeadsTo repo dir →
        detectRoot w.files repo = repo ∧
          ∀ c, loadConfig w.files found = .ok c ↔ loadConfig w.files repo = .ok c := by
  intro found
  refine ⟨lastMarkedBeginning_detectRoot h, ?_, ?_⟩
  · intro hup
    by_cases habs : start.isAbsolute = true
    · exact iff_of_true (nearestRoot_of_isAbsolute h hup habs) (.inl habs)
    · have hbase : w.base start = w.present := by rw [World.base, if_neg habs]
      rw [nearestRoot_iff_of_no_up h hup, hbase, or_iff_right habs]
  · intro repo dir hfound hmarked hrepo
    exact ⟨detectRoot_of_marked hrepo hmarked, loadConfig_congr hfound hrepo⟩

/-- A repository with a directory that holds another one. -/
def nestedRepositories : FileTree :=
  .directory [
    ("speclint.toml", .file ByteArray.empty),
    ("a", .directory [("b", .directory [("speclint.toml", .file ByteArray.empty)])])]

/-- From the root, the outer repository is found. -/
theorem detectRoot_nearest_absolute :
    let w : World := ⟨nestedRepositories, ["a", "b"]⟩
    w.LeadsTo ⟨"/a"⟩ ["a"] ∧ w.NearestRoot ⟨"/a"⟩ ["a"] (detectRoot w.files ⟨"/a"⟩) := by
  intro w
  have hstart : w.LeadsTo ⟨"/a"⟩ ["a"] := ⟨rfl, _, rfl⟩
  obtain ⟨-, hnearest, -⟩ := detectRoot_nearest_iff hstart
  exact ⟨hstart, (hnearest (by decide)).mpr (.inl (by decide))⟩

/-- The outer repository is not found from the directory in it under the name `.`, and with `..` in the name the inner
one is found instead. -/
theorem detectRoot_not_nearest :
    let below : World := ⟨nestedRepositories, ["a"]⟩
    let above : World := ⟨nestedRepositories, []⟩
    (below.LeadsTo ⟨"."⟩ ["a"] ∧ ¬ below.NearestRoot ⟨"."⟩ ["a"] (detectRoot below.files ⟨"."⟩)) ∧
      above.LeadsTo ⟨"a/b/.."⟩ ["a"] ∧
        ¬ above.NearestRoot ⟨"a/b/.."⟩ ["a"] (detectRoot above.files ⟨"a/b/.."⟩) := by
  intro below above
  constructor
  · have hstart : below.LeadsTo ⟨"."⟩ ["a"] := ⟨rfl, _, rfl⟩
    have hfound : detectRoot below.files ⟨"."⟩ = ⟨"."⟩ := rfl
    refine ⟨hstart, ?_⟩
    rintro (⟨dir, -, hleads, hmarked, -⟩ | ⟨-, hnone⟩)
    · rw [hfound] at hleads
      obtain rfl := hleads.unique hstart
      revert hmarked
      unfold World.Marked
      decide
    · refine hnone [] List.nil_prefix ?_
      unfold World.Marked
      decide
  · have hfound : detectRoot above.files ⟨"a/b/.."⟩ = ⟨"a/b"⟩ := rfl
    refine ⟨⟨rfl, _, rfl⟩, ?_⟩
    rw [hfound]
    rintro (⟨dir, hdir, hleads, -, -⟩ | ⟨hstart, -⟩)
    · have hinner : above.LeadsTo ⟨"a/b"⟩ ["a", "b"] := ⟨rfl, _, rfl⟩
      rw [hleads.unique hinner] at hdir
      revert hdir
      decide
    · revert hstart
      decide

end Settings

end DocLint
