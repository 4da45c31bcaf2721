import DocLint.Proofs.Finding
import DocLint.Targets

/-!
# Proofs: the targets of a run

Names of files are ordered by their components, and several spellings of one name are not told apart. The targets of
names (`expand_targets`) are strictly in order and hold one spelling of each name. So they depend on the names alone
and neither on their order nor on repetitions, as long as no two of them are spellings of one name.
-/

namespace DocLint

/-! ## The order of names -/

theorem Component.compare_swap (a b : Component) : Component.compare a b = (Component.compare b a).swap := by
  cases a <;> cases b <;> simp only [Component.compare]
  all_goals exact Std.OrientedOrd.eq_swap

instance : Std.TransCmp Component.compare where
  eq_swap := Component.compare_swap _ _
  isLE_trans {a b c} hab hbc := by
    cases a <;> cases b <;> cases c <;> simp only [Component.compare] at *
    case entry.entry.entry => exact Std.TransOrd.isLE_trans hab hbc
    all_goals first | contradiction | rfl

instance : Std.TransCmp (List.compareLex Component.compare) :=
  inferInstance

instance : Std.TransCmp FileName.compare where
  eq_swap {a _} := Std.OrientedCmp.eq_swap (a := a.components)
  isLE_trans {a _ _} hab hbc := Std.TransCmp.isLE_trans (a := a.components) hab hbc

namespace Targets

/-! ## Lists in order -/

/-- Strictly in order, so that there is one spelling of each name. -/
def Ordered (ts : List FileName) : Prop :=
  ts.Pairwise fun a b => FileName.compare a b = .lt

theorem eq_of_mem_iff {ts us : List FileName} (hts : Ordered ts) (hus : Ordered us) (h : ∀ t, t ∈ ts ↔ t ∈ us) :
    ts = us := by
  have : Std.Irrefl fun a b => FileName.compare a b = .lt := irrefl_of_compare
  have : Std.Antisymm fun a b => FileName.compare a b = .lt := antisymm_of_compare
  exact List.Pairwise.eq_of_mem_iff hts hus h

/-- A name that is put in is there afterwards, in one spelling or another. -/
theorem exists_mem_insert (n : FileName) (ts : List FileName) :
    ∃ t ∈ insert n ts, FileName.compare n t = .eq := by
  induction ts with
  | nil => exact ⟨n, List.mem_singleton_self n, Std.ReflCmp.compare_self⟩
  | cons a r ih =>
    unfold insert
    split
    · exact ⟨n, List.mem_cons_self, Std.ReflCmp.compare_self⟩
    · case h_2 heq => exact ⟨a, List.mem_cons_self, heq⟩
    · obtain ⟨t, ht, heq⟩ := ih
      exact ⟨t, List.mem_cons_of_mem a ht, heq⟩

theorem mem_insert_of_mem {n t : FileName} {ts : List FileName} (h : t ∈ ts) : t ∈ insert n ts := by
  induction ts with
  | nil => cases h
  | cons a r ih =>
    unfold insert
    split
    · exact List.mem_cons_of_mem n h
    · exact h
    · rcases List.mem_cons.mp h with rfl | h
      · exact List.mem_cons_self
      · exact List.mem_cons_of_mem a (ih h)

theorem eq_or_mem_of_mem_insert {n t : FileName} {ts : List FileName} (h : t ∈ insert n ts) : t = n ∨ t ∈ ts := by
  induction ts with
  | nil => exact .inl (List.mem_singleton.mp h)
  | cons a r ih =>
    unfold insert at h
    split at h
    · exact List.mem_cons.mp h
    · exact .inr h
    · rcases List.mem_cons.mp h with rfl | h
      · exact .inr List.mem_cons_self
      · rcases ih h with hn | hr
        · exact .inl hn
        · exact .inr (List.mem_cons_of_mem a hr)

theorem Ordered.insert {ts : List FileName} (h : Ordered ts) (n : FileName) : Ordered (insert n ts) := by
  induction ts with
  | nil => exact List.pairwise_singleton _ _
  | cons a r ih =>
    obtain ⟨hfirst, hrest⟩ := List.pairwise_cons.mp h
    unfold Targets.insert
    split
    · case h_1 hlt =>
      refine List.pairwise_cons.mpr ⟨fun t ht => ?_, h⟩
      rcases List.mem_cons.mp ht with rfl | ht
      · exact hlt
      · exact Std.TransCmp.lt_trans hlt (hfirst t ht)
    · exact h
    · case h_3 hgt =>
      refine List.pairwise_cons.mpr ⟨fun t ht => ?_, ih hrest⟩
      rcases eq_or_mem_of_mem_insert ht with rfl | ht
      · exact Std.OrientedCmp.gt_iff_lt.mp hgt
      · exact hfirst t ht

/-! ## The targets of names -/

/-- What a name that is put in does not change, putting in all names does not change. -/
theorem foldl_insert_induction {motive : List FileName → Prop} (names : List FileName)
    (step : ∀ ts, motive ts → ∀ n ∈ names, motive (insert n ts)) {ts : List FileName} (h : motive ts) :
    motive (names.foldl (fun ts n => insert n ts) ts) := by
  induction names generalizing ts with
  | nil => exact h
  | cons n names ih =>
    apply ih
    · intro ts hts m hm
      exact step ts hts m (List.mem_cons_of_mem n hm)
    · exact step ts h n List.mem_cons_self

theorem ordered_ofNames (names : List FileName) : Ordered (ofNames names) :=
  foldl_insert_induction (motive := Ordered) names (fun _ h n _ => h.insert n) List.Pairwise.nil

theorem mem_of_mem_ofNames {names : List FileName} {t : FileName} (h : t ∈ ofNames names) : t ∈ names := by
  have hall : ∀ u ∈ ofNames names, u ∈ names := by
    refine foldl_insert_induction (motive := fun ts => ∀ u ∈ ts, u ∈ names) names ?_ (by simp)
    intro ts hts n hn u hu
    rcases eq_or_mem_of_mem_insert hu with rfl | hu
    · exact hn
    · exact hts u hu
  exact hall t h

/-- Each name is among its targets, in one spelling or another. -/
theorem exists_mem_ofNames {names : List FileName} {n : FileName} (h : n ∈ names) :
    ∃ t ∈ ofNames names, FileName.compare n t = .eq := by
  -- Once the name has been put in, one spelling of it stays, whatever is put in afterwards.
  obtain ⟨before, after, rfl⟩ := List.append_of_mem h
  unfold ofNames
  rw [List.foldl_append, List.foldl_cons]
  apply foldl_insert_induction (motive := fun ts => ∃ t ∈ ts, FileName.compare n t = .eq)
  · rintro ts ⟨t, ht, heq⟩ m -
    exact ⟨t, mem_insert_of_mem ht, heq⟩
  · exact exists_mem_insert n _

/-- Where no two names are spellings of one, all are targets. -/
theorem mem_ofNames_iff {names : List FileName}
    (hspelled : ∀ m ∈ names, ∀ n ∈ names, FileName.compare m n = .eq → m = n) {t : FileName} :
    t ∈ ofNames names ↔ t ∈ names := by
  refine ⟨mem_of_mem_ofNames, fun h => ?_⟩
  obtain ⟨u, hu, heq⟩ := exists_mem_ofNames h
  rw [hspelled t h u (mem_of_mem_ofNames hu) heq]
  exact hu

/-- Neither the order of names nor repetitions matter where no two of them are spellings of one. -/
theorem ofNames_congr {names others : List FileName}
    (hspelled : ∀ m ∈ names, ∀ n ∈ names, FileName.compare m n = .eq → m = n)
    (h : ∀ n, n ∈ others ↔ n ∈ names) : ofNames others = ofNames names := by
  have hothers : ∀ m ∈ others, ∀ n ∈ others, FileName.compare m n = .eq → m = n := fun m hm n hn =>
    hspelled m ((h m).mp hm) n ((h n).mp hn)
  apply eq_of_mem_iff (ordered_ofNames others) (ordered_ofNames names)
  intro t
  rw [mem_ofNames_iff hothers, mem_ofNames_iff hspelled, h]

/-! ## Names without wildcards -/

section
variable (fs : Files Id)

/-- Names without wildcards stand for themselves. -/
theorem expandEntries_of_plain {entries : List String} (h : ∀ e ∈ entries, isPattern ⟨e⟩ = false) :
    expandEntries fs none entries = .ok (entries.map FileName.mk) := by
  induction entries with
  | nil => rfl
  | cons e entries ih =>
    have hfirst : expandEntry fs none e = .ok [⟨e⟩] := by
      simp only [expandEntry, place, h e List.mem_cons_self]
      rfl
    have hrest := ih fun e' he => h e' (List.mem_cons_of_mem e he)
    simp only [expandEntries, hfirst, hrest]
    rfl

end

end Targets

end DocLint
