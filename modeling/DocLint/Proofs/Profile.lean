import DocLint.Profile
import DocLint.Proofs.Failure

/-!
# Proofs: the profile of a policy

Registration keeps the names of rules distinct. A profile that was compiled from a policy holds compiled
entries of the policy and nothing else, one rule for each name.
-/

namespace DocLint

/-- An entry that forbids all children of the root can be compiled, whatever its name and its severity are. -/
theorem PolicyEntry.compile_forbidden_everywhere (name : String) (level : Option Severity) :
    compile ⟨name, String.ofList ['*'], .forbidden, level, none⟩ =
      .ok ⟨name, level.getD .error, none, ⟨String.ofList ['*'], [.any]⟩, .forbidden⟩ := by
  simp only [compile, Selector.read, Text.trim, String.toList_ofList]
  rfl

namespace Profile

theorem contains_iff {p : Profile} {name : String} : p.contains name = true ↔ name ∈ p.names := by
  simp [contains, names]

theorem register_eq_ok {p q : Profile} {r : Rule} (h : p.register r = .ok q) :
    r.name ∉ p.names ∧ q = ⟨p.rules ++ [r]⟩ := by
  unfold register at h
  split at h
  · cases h
  · split at h
    · cases h
    · case isFalse hcontains =>
      cases h
      exact ⟨fun hmem => hcontains (contains_iff.mpr hmem), rfl⟩

/-- A rule is what an entry of a policy is compiled to. -/
def Compiled (e : PolicyEntry) (r : Rule) : Prop :=
  ∃ c, e.compile = .ok c ∧ r = c.toRule

theorem extend_eq_ok {p q : Profile} {es : List PolicyEntry} (h : p.extend es = .ok q) :
    (p.names.Nodup → q.names.Nodup) ∧ ∃ rs, q.rules = p.rules ++ rs ∧ List.Forall₂ Compiled es rs := by
  induction es generalizing p with
  | nil =>
    cases h
    exact ⟨id, [], (List.append_nil _).symm, .nil⟩
  | cons e es ih =>
    cases hc : e.compile with
    | error cause => simp [extend, hc] at h
    | ok c =>
      cases hr : p.register c.toRule with
      | error cause => simp [extend, hc, hr] at h
      | ok p' =>
        obtain ⟨hfresh, rfl⟩ := register_eq_ok hr
        obtain ⟨hnames, rs, hrules, hcompiled⟩ := ih (by simpa [extend, hc, hr] using h)
        refine ⟨fun hp => hnames ?_, c.toRule :: rs, ?_, .cons ⟨c, hc, rfl⟩ hcompiled⟩
        · have happend : names ⟨p.rules ++ [c.toRule]⟩ = p.names ++ [c.toRule.name] := by simp [names]
          rw [happend]
          exact List.nodup_append.mpr ⟨hp, by simp, fun a ha b hb => by
            rw [List.mem_singleton.mp hb]
            exact fun heq => hfresh (heq ▸ ha)⟩
        · rw [hrules]
          exact (List.append_cons ..).symm

/-- The rules of a policy have distinct names. -/
theorem nodup_names_ofPolicy {es : List PolicyEntry} {p : Profile} (h : ofPolicy es = .ok p) : p.names.Nodup :=
  (extend_eq_ok h).1 List.nodup_nil

/-- The rules of a policy are its entries, compiled one by one. -/
theorem compiled_ofPolicy {es : List PolicyEntry} {p : Profile} (h : ofPolicy es = .ok p) :
    List.Forall₂ Compiled es p.rules := by
  obtain ⟨-, rs, hrules, hcompiled⟩ := extend_eq_ok h
  rwa [hrules]

theorem exists_entry_of_mem {es : List PolicyEntry} {p : Profile} (h : ofPolicy es = .ok p) {r : Rule}
    (hr : r ∈ p.rules) : ∃ e ∈ es, Compiled e r := by
  have hcompiled := compiled_ofPolicy h
  obtain ⟨i, hi, rfl⟩ := List.getElem_of_mem hr
  have hentry : i < es.length := hcompiled.length_eq ▸ hi
  exact ⟨es[i], List.getElem_mem hentry, hcompiled.get hentry hi⟩

/-- The rules of a policy are compiled entries. -/
theorem exists_check_of_mem {es : List PolicyEntry} {p : Profile} (h : ofPolicy es = .ok p) {r : Rule}
    (hr : r ∈ p.rules) : ∃ e c, PolicyEntry.compile e = .ok c ∧ r = c.toRule := by
  obtain ⟨e, -, c, hcompile, hrule⟩ := exists_entry_of_mem h hr
  exact ⟨e, c, hcompile, hrule⟩

theorem name_of_compiled {e : PolicyEntry} {r : Rule} (h : Compiled e r) : r.name = e.name := by
  obtain ⟨c, hcompile, rfl⟩ := h
  unfold PolicyEntry.compile at hcompile
  split at hcompile
  · cases hcompile
  · obtain ⟨family, -, rfl⟩ := map_eq_ok_iff.mp hcompile
    rfl

/-- The rules of a policy have the names of its entries. -/
theorem names_ofPolicy {es : List PolicyEntry} {p : Profile} (h : ofPolicy es = .ok p) :
    p.names = es.map (·.name) := by
  rw [names, eq_comm, ← List.forall₂_eq_eq_eq, List.forall₂_map_left_iff, List.forall₂_map_right_iff]
  exact (compiled_ofPolicy h).imp fun e r hcompiled => (name_of_compiled hcompiled).symm

theorem nodup_entries_ofPolicy {es : List PolicyEntry} {p : Profile} (h : ofPolicy es = .ok p) :
    (es.map (·.name)).Nodup :=
  names_ofPolicy h ▸ nodup_names_ofPolicy h

end Profile

end DocLint
