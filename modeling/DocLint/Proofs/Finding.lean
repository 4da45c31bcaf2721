import DocLint.Finding
import Mathlib.Data.List.Sort

/-!
# Proofs: the order of reports

Any two findings can be compared, the order of reports (`Diagnostic::report_order`) is transitive, and only equal
findings compare equal. So a list of findings that is strictly in order is determined by its members alone, and a
sorted list becomes strict once no finding equals the one before it.
-/

namespace DocLint

/-! ## Strict orders -/

section
variable {α : Type} {cmp : α → α → Ordering}

theorem irrefl_of_compare [Std.ReflCmp cmp] : Std.Irrefl fun a b => cmp a b = .lt where
  irrefl a h := by
    have hself : cmp a a = .eq := Std.ReflCmp.compare_self
    rw [hself] at h
    cases h

theorem antisymm_of_compare [Std.OrientedCmp cmp] : Std.Antisymm fun a b => cmp a b = .lt where
  antisymm a b hab hba := by
    have hswap : cmp a b = (cmp b a).swap := Std.OrientedCmp.eq_swap
    rw [hswap, hba] at hab
    cases hab

end

/-! ## Segments and paths -/

theorem Segment.compare_swap (a b : Segment) : Segment.compare a b = (Segment.compare b a).swap := by
  cases a <;> cases b <;> simp only [Segment.compare, Ordering.swap_lt, Ordering.swap_gt]
  · exact Std.OrientedOrd.eq_swap
  · exact Std.OrientedOrd.eq_swap

instance : Std.TransCmp Segment.compare where
  eq_swap := Segment.compare_swap _ _
  isLE_trans {a b c} hab hbc := by
    cases a <;> cases b <;> cases c <;> simp only [Segment.compare] at *
    case key.key.key => exact Std.TransOrd.isLE_trans hab hbc
    case index.index.index => exact Std.TransOrd.isLE_trans hab hbc
    all_goals first | contradiction | rfl

instance : Std.LawfulEqCmp Segment.compare where
  compare_self {a} := by cases a <;> simp [Segment.compare]
  eq_of_compare {a b} h := by
    cases a <;> cases b <;> simp only [Segment.compare, reduceCtorEq] at h
    · rw [Std.LawfulEqOrd.eq_of_compare h]
    · rw [Std.LawfulEqOrd.eq_of_compare h]

instance : Std.TransCmp Path.compare :=
  inferInstanceAs (Std.TransCmp (List.compareLex Segment.compare))

instance : Std.LawfulEqCmp Path.compare :=
  inferInstanceAs (Std.LawfulEqCmp (List.compareLex Segment.compare))

theorem Severity.eq_of_rank {s t : Severity} (h : s.rank = t.rank) : s = t := by
  cases s <;> cases t <;> first | rfl | cases h

namespace Finding

/-! ## Findings -/

theorem compare_path_swap (f g : Finding) : Path.compare f.path g.path = (Path.compare g.path f.path).swap :=
  Std.OrientedCmp.eq_swap

theorem compare_path_trans {f g h : Finding} (hfg : (Path.compare f.path g.path).isLE = true)
    (hgh : (Path.compare g.path h.path).isLE = true) : (Path.compare f.path h.path).isLE = true :=
  Std.TransCmp.isLE_trans hfg hgh

instance : Std.TransCmp (fun f g : Finding => Path.compare f.path g.path) where
  eq_swap := compare_path_swap _ _
  isLE_trans := compare_path_trans

instance : Std.TransCmp Finding.compare := by
  unfold Finding.compare
  infer_instance

/-- The comparison looks at every field, so nothing tells apart findings that compare equal. -/
instance : Std.LawfulEqCmp Finding.compare where
  compare_self := Std.ReflCmp.compare_self
  eq_of_compare {f g} h := by
    simp only [Finding.compare, compareLex_eq_eq, compareOn, Std.LawfulEqCmp.compare_eq_iff_eq] at h
    obtain ⟨hstartLine, hstartColumn, hrule, hmessage, hpath, hendLine, hendColumn, hrank⟩ := h
    obtain ⟨_, _, _, _, _, _, _, _⟩ := f
    obtain ⟨_, _, _, _, _, _, _, _⟩ := g
    have hseverity := Severity.eq_of_rank hrank
    subst hstartLine hstartColumn hrule hmessage hpath hendLine hendColumn hseverity
    rfl

/-- The finding stands before the other in every report that has both. -/
def Before (f g : Finding) : Prop :=
  Finding.compare f g = .lt

instance : Std.Irrefl Before :=
  irrefl_of_compare

instance : Std.Antisymm Before :=
  antisymm_of_compare

instance : Trans Before Before Before where
  trans hfg hgh := Std.TransCmp.lt_trans hfg hgh

theorem before_of_precedes {f g : Finding} (h : precedes f g = true) (hne : f ≠ g) : Before f g := by
  unfold precedes at h
  unfold Before
  cases hc : Finding.compare f g with
  | lt => rfl
  | eq => exact absurd (Std.LawfulEqCmp.eq_of_compare hc) hne
  | gt =>
    rw [hc] at h
    cases h

theorem Before.trans_precedes {f g h : Finding} (hfg : Before f g) (hgh : precedes g h = true) : Before f h :=
  Std.TransCmp.lt_of_lt_of_isLE hfg hgh

theorem precedes_trans (f g h : Finding) (hfg : precedes f g = true) (hgh : precedes g h = true) :
    precedes f h = true :=
  Std.TransCmp.isLE_trans hfg hgh

theorem precedes_total (f g : Finding) : (precedes f g || precedes g f) = true := by
  have hswap : Finding.compare g f = (Finding.compare f g).swap := Std.OrientedCmp.eq_swap
  unfold precedes
  rw [hswap]
  cases Finding.compare f g <;> rfl

/-! ## Lists in order -/

theorem sort_perm (fs : List Finding) : (sort fs).Perm fs :=
  List.mergeSort_perm fs precedes

theorem mem_sort {f : Finding} {fs : List Finding} : f ∈ sort fs ↔ f ∈ fs :=
  (sort_perm fs).mem_iff

theorem pairwise_sort (fs : List Finding) : (sort fs).Pairwise fun f g => precedes f g = true :=
  List.pairwise_mergeSort precedes_trans precedes_total fs

/-- A list that is strictly in order is determined by its members. -/
theorem eq_of_mem_iff {fs gs : List Finding} (hfs : fs.Pairwise Before) (hgs : gs.Pairwise Before)
    (h : ∀ f, f ∈ fs ↔ f ∈ gs) : fs = gs :=
  List.Pairwise.eq_of_mem_iff hfs hgs h

end Finding

end DocLint
