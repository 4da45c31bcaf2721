import DocLint.Files.Tree
import DocLint.Proofs.Files.Name

/-!
# Proofs: where a name leads in a tree

A name leads to a directory if and only if every beginning of its steps does; then the steps are moves from place to
place. Two names that lead to the same directory have the same entries.
-/

namespace DocLint.FileTree

theorem at?_append (t : FileTree) (a b : List String) : t.at? (a ++ b) = (t.at? a).bind (·.at? b) := by
  induction a generalizing t with
  | nil => rfl
  | cons x a ih =>
    rw [List.cons_append, at?, at?]
    cases t.entry? x with
    | none => rfl
    | some t' => exact ih t'

namespace World

/-! ## Moves -/

/-- Where a step leads from a place. -/
def move (place : List String) : Component → List String
  | .entry x => place ++ [x]
  | .up => place.dropLast
  | _ => place

/-- Where the steps of a name start. -/
def base (w : World) (n : FileName) : List String :=
  if n.isAbsolute then [] else w.present

/-- Where one stands after some steps of a name. -/
def along (w : World) (n : FileName) (q : List Component) : List String :=
  q.foldl move (w.base n)

/-- There is a directory at a place. -/
def IsDirectory (w : World) (place : List String) : Prop :=
  ∃ entries, w.tree.at? place = some (.directory entries)

/-- A name leads to the directory at a place. The empty name leads to the present directory, as the start of longer
names. -/
def LeadsTo (w : World) (n : FileName) (place : List String) : Prop :=
  w.follow (w.base n) n.parts = .ok place ∧ w.IsDirectory place

variable {w : World}

theorem foldl_move_names (place names : List String) :
    (names.map Component.entry).foldl move place = place ++ names := by
  induction names generalizing place with
  | nil => exact (List.append_nil place).symm
  | cons x names ih =>
    rw [List.map_cons, List.foldl_cons, ih]
    exact List.append_assoc place [x] names

/-- Directories are only in directories. -/
theorem IsDirectory.of_prefix {a b : List String} (h : w.IsDirectory b) (hbegins : a <+: b) : w.IsDirectory a := by
  obtain ⟨r, rfl⟩ := hbegins
  obtain ⟨entries, hentries⟩ := h
  rw [at?_append, Option.bind_eq_some_iff] at hentries
  obtain ⟨t, ht, hr⟩ := hentries
  cases t with
  | directory inside => exact ⟨inside, ht⟩
  | file content =>
    cases r with
    | nil => cases hr
    | cons x r => cases hr

theorem IsDirectory.isSome {place : List String} (h : w.IsDirectory place) : (w.tree.at? place).isSome := by
  obtain ⟨entries, hentries⟩ := h
  rw [hentries]
  rfl

/-! ## Following the parts of a name -/

theorem follow_blank {place : List String} {part : List Char} {r : List (List Char)} (hplace : w.IsDirectory place)
    (hpart : FileName.componentOf? part = none) : w.follow place (part :: r) = w.follow place r := by
  obtain ⟨entries, hentries⟩ := hplace
  simp only [follow, hentries, hpart]

theorem follow_step {place : List String} {part : List Char} {r : List (List Char)} {c : Component}
    (hplace : w.IsDirectory place) (hpart : FileName.componentOf? part = some c)
    (hthere : (w.tree.at? (move place c)).isSome) : w.follow place (part :: r) = w.follow (move place c) r := by
  obtain ⟨entries, hentries⟩ := hplace
  obtain ⟨t, ht⟩ := Option.isSome_iff_exists.mp hthere
  cases c with
  | entry x =>
    simp only [move] at ht
    simp only [follow, hentries, hpart, ht, move]
  | up | root | here => simp only [follow, hentries, hpart, move]

/-- What it takes to follow a part and what is behind it. -/
theorem of_follow_cons {place dest : List String} {part : List Char} {r : List (List Char)}
    (h : w.follow place (part :: r) = .ok dest) :
    w.IsDirectory place ∧
      ((FileName.componentOf? part = none ∧ w.follow place r = .ok dest) ∨
        ∃ c, FileName.componentOf? part = some c ∧ (w.tree.at? (move place c)).isSome ∧
          w.follow (move place c) r = .ok dest) := by
  rw [follow] at h
  cases hplace : w.tree.at? place with
  | none => simp only [hplace] at h; cases h
  | some t =>
    cases t with
    | file content => simp only [hplace] at h; cases h
    | directory entries =>
      have hdirectory : w.IsDirectory place := ⟨entries, hplace⟩
      refine ⟨hdirectory, ?_⟩
      simp only [hplace] at h
      cases hpart : FileName.componentOf? part with
      | none =>
        simp only [hpart] at h
        exact .inl ⟨rfl, h⟩
      | some c =>
        refine .inr ⟨c, rfl, ?_⟩
        simp only [hpart] at h
        cases c with
        | entry x =>
          cases hthere : w.tree.at? (place ++ [x]) with
          | none => simp only [hthere] at h; cases h
          | some t =>
            simp only [hthere] at h
            exact ⟨by rw [move, hthere]; rfl, h⟩
        | up => exact ⟨(hdirectory.of_prefix (List.dropLast_prefix place)).isSome, h⟩
        | root | here => exact ⟨hdirectory.isSome, h⟩

theorem follow_append {place mid : List String} {a b : List (List Char)} (h : w.follow place a = .ok mid) :
    w.follow place (a ++ b) = w.follow mid b := by
  induction a generalizing place with
  | nil =>
    cases h
    rfl
  | cons part a ih =>
    rw [List.cons_append]
    obtain ⟨hplace, ⟨hpart, hrest⟩ | ⟨c, hpart, hthere, hrest⟩⟩ := of_follow_cons h
    · rw [follow_blank hplace hpart]
      exact ih hrest
    · rw [follow_step hplace hpart hthere]
      exact ih hrest

/-- Steps that stay in directories can be followed, whatever else the parts are. -/
theorem follow_of_directories {place : List String} {parts : List (List Char)}
    (h : ∀ q, q <+: parts.filterMap FileName.componentOf? → w.IsDirectory (q.foldl move place)) :
    w.follow place parts = .ok ((parts.filterMap FileName.componentOf?).foldl move place) := by
  induction parts generalizing place with
  | nil => rfl
  | cons part r ih =>
    have hplace : w.IsDirectory place := h [] List.nil_prefix
    cases hpart : FileName.componentOf? part with
    | none =>
      rw [List.filterMap_cons_none hpart] at h ⊢
      rw [follow_blank hplace hpart]
      exact ih h
    | some c =>
      rw [List.filterMap_cons_some hpart] at h ⊢
      have hfirst : w.IsDirectory (move place c) := h [c] (by simp)
      rw [follow_step hplace hpart hfirst.isSome]
      refine ih ?_
      intro q hq
      exact h (c :: q) (List.cons_prefix_cons.mpr ⟨rfl, hq⟩)

/-- Where parts are followed to a directory, all their steps stay in directories. -/
theorem directories_of_follow {place dest : List String} {parts : List (List Char)}
    (h : w.follow place parts = .ok dest) (hdest : w.IsDirectory dest) :
    dest = (parts.filterMap FileName.componentOf?).foldl move place ∧
      ∀ q, q <+: parts.filterMap FileName.componentOf? → w.IsDirectory (q.foldl move place) := by
  induction parts generalizing place with
  | nil =>
    cases h
    refine ⟨rfl, ?_⟩
    intro q hq
    rw [List.filterMap_nil, List.prefix_nil] at hq
    rwa [hq]
  | cons part r ih =>
    obtain ⟨hplace, ⟨hpart, hrest⟩ | ⟨c, hpart, -, hrest⟩⟩ := of_follow_cons h
    · rw [List.filterMap_cons_none hpart]
      exact ih hrest
    · rw [List.filterMap_cons_some hpart]
      obtain ⟨hend, hdirectories⟩ := ih hrest
      refine ⟨hend, ?_⟩
      intro q hq
      rcases List.prefix_cons_iff.mp hq with rfl | ⟨q', rfl, hq'⟩
      · exact hplace
      · exact hdirectories q' hq'

/-! ## Directories and their entries -/

theorem leadsTo_iff {n : FileName} {place : List String} :
    w.LeadsTo n place ↔ place = w.along n n.steps ∧ ∀ q, q <+: n.steps → w.IsDirectory (w.along n q) := by
  constructor
  · rintro ⟨hfollow, hplace⟩
    exact directories_of_follow hfollow hplace
  · rintro ⟨rfl, hdirectories⟩
    exact ⟨follow_of_directories hdirectories, hdirectories _ (List.prefix_refl _)⟩

theorem LeadsTo.unique {n : FileName} {a b : List String} (ha : w.LeadsTo n a) (hb : w.LeadsTo n b) : a = b := by
  rw [(leadsTo_iff.mp ha).1, (leadsTo_iff.mp hb).1]

/-- A name that starts where another does and has a beginning of its steps leads to where one comes by on the way. -/
theorem LeadsTo.of_prefix {n a : FileName} {place : List String} (h : w.LeadsTo n place)
    (habs : a.isAbsolute = n.isAbsolute) (hsteps : a.steps <+: n.steps) : w.LeadsTo a (w.along n a.steps) := by
  obtain ⟨-, hdirectories⟩ := leadsTo_iff.mp h
  have halong (q : List Component) : w.along a q = w.along n q := by rw [along, along, base, base, habs]
  refine leadsTo_iff.mpr ⟨(halong _).symm, ?_⟩
  intro q hq
  rw [halong]
  exact hdirectories q (hq.trans hsteps)

theorem has_eq (n : FileName) : w.files.has n = (w.find n).toOption.isSome := by
  have hkind : w.files.has n = (w.files.kind? n).isSome := rfl
  rw [hkind]
  simp only [files]
  rcases w.find n with e | content | entries <;> rfl

/-- What the name of an entry stands for is what the directory has under it, however the directory is named. -/
theorem find_child {dir : FileName} {place : List String} {x : String} (h : w.LeadsTo dir place)
    (hslash : '/' ∉ x.toList) (hx : FileName.componentOf? x.toList = some (.entry x)) :
    w.find (dir.child x) =
      match w.tree.at? (place ++ [x]) with
      | some t => .ok t
      | none => .error .notFound := by
  obtain ⟨habs, front, hparts, hfront⟩ := dir.child_spec hslash
  obtain ⟨rfl, hdirectories⟩ := leadsTo_iff.mp h
  rw [← hfront] at hdirectories
  have hfollow : w.follow (w.base dir) front = .ok (w.along dir dir.steps) := by
    rw [follow_of_directories hdirectories, hfront, along]
  have hbase : (if (dir.child x).isAbsolute then [] else w.present) = w.base dir := by rw [base, habs]
  have hempty : (dir.child x).text.isEmpty = false := by
    rw [Bool.eq_false_iff, ne_eq, String.isEmpty_iff]
    intro hnil
    rw [FileName.parts, hnil] at hparts
    have hblank := congrArg List.getLast? hparts
    rw [List.getLast?_concat] at hblank
    rw [← Option.some.inj hblank] at hx
    cases hx
  rw [find, hempty, hbase, hparts, follow_append hfollow]
  obtain ⟨entries, hentries⟩ := h.2
  cases hthere : w.tree.at? (w.along dir dir.steps ++ [x]) with
  | none => simp only [follow, hentries, hx, hthere, Bool.false_eq_true, if_false]
  | some t => simp only [follow, hentries, hx, hthere, Bool.false_eq_true, if_false]

end World

end DocLint.FileTree
