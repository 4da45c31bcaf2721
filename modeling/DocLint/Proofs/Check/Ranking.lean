import DocLint.Proofs.Check
import DocLint.Proofs.Document.Tree
import Mathlib.Data.List.Induction

/-!
# Proofs: ranks of children

An order ranks the labels of the children of a container by the entries that they start with (`rank_of`), and has a
note about each child that comes after one of greater rank. It finds these children in a single walk that remembers
one child, the last of those of greatest rank so far. A child of lesser rank is noted and forgotten, so it does not
matter to the children after it: whether one of these is out of place depends on the greatest rank before it alone.
-/

namespace DocLint

namespace Ranking

/-! ## Ranks -/

/-- The rank of the label is `k`: the label starts with the declared entry at `k`, with no longer one, and with none
declared after `k` that is as long. -/
def Ranks (order : List String) (label : String) (k : Nat) : Prop :=
  ∃ e, order[k]? = some e ∧ e.toList <+: label.toList ∧ ∀ j e', order[j]? = some e' → e'.toList <+: label.toList →
    e'.length < e.length ∨ (e' = e ∧ j ≤ k)

theorem Ranks.unique {order : List String} {label : String} {k k' : Nat} (h : Ranks order label k)
    (h' : Ranks order label k') : k = k' := by
  obtain ⟨e, he, hprefix, hbest⟩ := h
  obtain ⟨e', he', hprefix', hbest'⟩ := h'
  rcases hbest k' e' he' hprefix' with hlt | ⟨rfl, hle⟩
  · rcases hbest' k e he hprefix with hgt | ⟨rfl, -⟩
    · omega
    · omega
  · rcases hbest' k e' he hprefix with hgt | ⟨-, hge⟩
    · omega
    · omega

/-- The declared entries that a label starts with, each after its place. -/
def fitting (order : List String) (label : String) : List (Nat × String) :=
  (order.zipIdx.filter fun e => e.1.toList.isPrefixOf label.toList).map fun e => (e.2, e.1)

theorem mem_fitting_iff {order : List String} {label : String} {x : Nat × String} :
    x ∈ fitting order label ↔ order[x.1]? = some x.2 ∧ x.2.toList <+: label.toList := by
  obtain ⟨k, e⟩ := x
  simp [fitting, List.mem_zipIdx_iff_getElem?]

theorem pairwise_fitting (order : List String) (label : String) :
    (fitting order label).Pairwise fun x y => x.1 < y.1 := by
  unfold fitting
  rw [List.pairwise_map]
  refine List.Pairwise.filter _ ?_
  rw [← List.pairwise_map (f := Prod.snd) (R := (· < ·)), List.zipIdx_map_snd]
  exact List.pairwise_lt_range'

/-- Where the places increase, the best is the longest; of the longest ones, it has the greatest place. -/
theorem foldl_better {xs : List (Nat × String)} (h : xs.Pairwise fun x y => x.1 < y.1) :
    (xs = [] ∧ xs.foldl better none = none) ∨ ∃ b ∈ xs, xs.foldl better none = some b ∧
      ∀ x ∈ xs, x.2.length < b.2.length ∨ (x.2.length = b.2.length ∧ x.1 ≤ b.1) := by
  induction xs using List.reverseRecOn with
  | nil => exact .inl ⟨rfl, rfl⟩
  | append_singleton r y ih =>
    obtain ⟨hr, -, hlast⟩ := List.pairwise_append.mp h
    have hy : ∀ x ∈ r, x.1 < y.1 := fun x hx => hlast x hx y List.mem_cons_self
    refine .inr ?_
    rw [List.foldl_append, List.foldl_cons, List.foldl_nil]
    rcases ih hr with ⟨rfl, hnone⟩ | ⟨b, hb, hbest, hrest⟩
    · rw [hnone]
      exact ⟨y, by simp, rfl, by simp⟩
    · rw [hbest, better]
      by_cases hlt : y.2.length < b.2.length
      · rw [if_pos hlt]
        refine ⟨b, List.mem_append_left _ hb, rfl, fun x hx => ?_⟩
        rcases List.mem_append.mp hx with hx | hx
        · exact hrest x hx
        · cases List.mem_singleton.mp hx
          exact .inl hlt
      · rw [if_neg hlt]
        refine ⟨y, by simp, rfl, fun x hx => ?_⟩
        rcases List.mem_append.mp hx with hx | hx
        · have hbefore := hy x hx
          have hlength := hrest x hx
          omega
        · cases List.mem_singleton.mp hx
          exact .inr ⟨rfl, Nat.le_refl _⟩

theorem rank?_eq_some_iff {order : List String} {label : String} {k : Nat} :
    rank? order label = some k ↔ Ranks order label k := by
  have hrank : rank? order label = ((fitting order label).foldl better none).map (·.1) := rfl
  rw [hrank]
  rcases foldl_better (pairwise_fitting order label) with ⟨hnil, hnone⟩ | ⟨⟨j, e⟩, hmem, hbest, hrest⟩
  · rw [hnone]
    constructor
    · intro h
      cases h
    · rintro ⟨e, he, hprefix, -⟩
      have hmem : (k, e) ∈ fitting order label := mem_fitting_iff.mpr ⟨he, hprefix⟩
      rw [hnil] at hmem
      cases hmem
  · obtain ⟨he, hprefix⟩ := mem_fitting_iff.mp hmem
    have hranks : Ranks order label j := by
      refine ⟨e, he, hprefix, fun i e' he' hprefix' => ?_⟩
      rcases hrest (i, e') (mem_fitting_iff.mpr ⟨he', hprefix'⟩) with hlt | ⟨hlength, hle⟩
      · exact .inl hlt
      · -- Two beginnings of one label that are equally long are the same.
        have hlength' : e'.toList.length = e.toList.length := by
          rw [String.length_toList, String.length_toList]
          exact hlength
        have hshorter := List.prefix_of_prefix_length_le hprefix' hprefix (Nat.le_of_eq hlength')
        have hsame := hshorter.eq_of_length hlength'
        exact .inr ⟨String.toList_injective hsame, hle⟩
    rw [hbest, Option.map_some, Option.some.injEq]
    exact ⟨fun h => h ▸ hranks, hranks.unique⟩

/-! ## Labels -/

/-- The label of a child: the key of an entry; the text of an item that is a scalar, or else of the scalar that the
item has under a key. -/
inductive Labels : Option String → Segment × Node → String → Prop where
  /-- An entry of a mapping. -/
  | entry (labelKey : Option String) (key : String) (n : Node) : Labels labelKey (.key key, n) key
  /-- An item of a sequence, labelled by itself. -/
  | item (i : Nat) {n : Node} {v : Scalar} (hv : n.value? = some v) : Labels none (.index i, n) v.text
  /-- An item of a sequence, labelled by its entry under a key. -/
  | itemEntry (i : Nat) {n m : Node} {key : String} {v : Scalar} (hm : n.child? (.key key) = .ok m)
      (hv : m.value? = some v) : Labels (some key) (.index i, n) v.text

/-- The label of a child, if it has one. -/
def label? (labelKey : Option String) : Segment × Node → Option String
  | (.key key, _) => some key
  | (.index _, n) => itemLabel? labelKey n

theorem label?_eq_some_iff {labelKey : Option String} {b : Segment × Node} {l : String} :
    label? labelKey b = some l ↔ Labels labelKey b l := by
  obtain ⟨s, n⟩ := b
  cases s with
  | key key =>
    rw [label?, Option.some.injEq]
    constructor
    · rintro rfl
      exact .entry labelKey key n
    · rintro ⟨⟩
      rfl
  | index i =>
    rw [label?]
    cases labelKey with
    | none =>
      rw [itemLabel?, Option.map_eq_some_iff]
      constructor
      · rintro ⟨v, hv, rfl⟩
        exact .item i hv
      · intro h
        cases h with
        | item _ hv => exact ⟨_, hv, rfl⟩
    | some key =>
      rw [itemLabel?]
      cases hm : n.child? (.key key) with
      | error e =>
        constructor
        · rintro ⟨⟩
        · intro h
          cases h with
          | itemEntry _ hm' _ =>
            rw [hm] at hm'
            cases hm'
      | ok m =>
        rw [Option.map_eq_some_iff]
        constructor
        · rintro ⟨v, hv, rfl⟩
          exact .itemEntry i hm hv
        · intro h
          cases h with
          | itemEntry _ hm' hv =>
            rw [hm] at hm'
            cases hm'
            exact ⟨_, hv, rfl⟩

/-! ## Places -/

section Places

variable (order : List String) (labelKey : Option String) (bs : List (Segment × Node))

/-- Of some children, the one at place `i` has a label and a rank. -/
def RankedAt (i : Nat) (label : String) (k : Nat) : Prop :=
  ∃ b, bs[i]? = some b ∧ Labels labelKey b label ∧ Ranks order label k

/-- The child at place `i` has a rank, and there is one of greater rank before it. -/
def Displaced (i : Nat) : Prop :=
  ∃ l k, RankedAt order labelKey bs i l k ∧ ∃ j < i, ∃ l' k', RankedAt order labelKey bs j l' k' ∧ k < k'

/-- Of the children before place `m`, the greatest rank is `k`, and the last one that has it has the label. -/
def Leads (m : Nat) (label : String) (k : Nat) : Prop :=
  ∃ j < m, RankedAt order labelKey bs j label k ∧
    ∀ j' < m, ∀ l' k', RankedAt order labelKey bs j' l' k' → k' < k ∨ (k' = k ∧ j' ≤ j)

/-- The ranks of the children do not decrease. -/
def InOrder : Prop :=
  ∀ i j l l' k k', i < j → RankedAt order labelKey bs i l k → RankedAt order labelKey bs j l' k' → k ≤ k'

/-- The note about the child at place `i`. It names the label of the child and the label of the last of the children
before it that have the greatest rank there. -/
inductive Told (i : Nat) : Note → Prop where
  /-- The note is at the child. -/
  | intro {b : Segment × Node} {l l' : String} {k : Nat} (hb : bs[i]? = some b) (hl : Labels labelKey b l)
      (hlead : Leads order labelKey bs i l' k) : Told i (b.2, "'" ++ l ++ "' must appear before '" ++ l' ++ "'")

/-- What a walk remembers when it has come to place `m`: the child that leads there, if any child there has a rank. -/
structure Top (m : Nat) (top : Option (Nat × String)) : Prop where
  /-- No rank before is greater. -/
  greatest : ∀ j < m, ∀ l k, RankedAt order labelKey bs j l k → ∃ t ∈ top, k ≤ t.1
  /-- It is that of the last child that has it. -/
  leads : ∀ t ∈ top, Leads order labelKey bs m t.2 t.1

end Places

section

variable {order : List String} {labelKey : Option String} {bs : List (Segment × Node)}

theorem RankedAt.unique {i : Nat} {l l' : String} {k k' : Nat} (h : RankedAt order labelKey bs i l k)
    (h' : RankedAt order labelKey bs i l' k') : l = l' ∧ k = k' := by
  obtain ⟨b, hb, hl, hk⟩ := h
  obtain ⟨b', hb', hl', hk'⟩ := h'
  obtain rfl := Option.mem_unique hb hb'
  obtain rfl := Option.mem_unique (label?_eq_some_iff.mpr hl) (label?_eq_some_iff.mpr hl')
  exact ⟨rfl, hk.unique hk'⟩

theorem inOrder_iff : InOrder order labelKey bs ↔ ∀ i, ¬ Displaced order labelKey bs i := by
  constructor
  · rintro h i ⟨l, k, hi, j, hj, l', k', hj', hlt⟩
    have hle := h j i l' l k' k hj hj' hi
    omega
  · intro h i j l l' k k' hij hi hj
    by_contra hlt
    exact h j ⟨l', k', hj, i, hij, l, k, hi, by omega⟩

/-! ## Steps of a walk -/

/-- A child is out of place just if it has a rank and a greater one is remembered. -/
theorem Top.displaced_iff {m : Nat} {top : Option (Nat × String)} (h : Top order labelKey bs m top) :
    Displaced order labelKey bs m ↔ ∃ l k, RankedAt order labelKey bs m l k ∧ ∃ t ∈ top, k < t.1 := by
  constructor
  · rintro ⟨l, k, hm, j, hj, l', k', hj', hlt⟩
    obtain ⟨t, ht, hle⟩ := h.greatest j hj l' k' hj'
    exact ⟨l, k, hm, t, ht, by omega⟩
  · rintro ⟨l, k, hm, t, ht, hlt⟩
    obtain ⟨j, hj, hj', -⟩ := h.leads t ht
    exact ⟨l, k, hm, j, hj, t.2, t.1, hj', hlt⟩

/-- A child that has no rank, or a lesser one than what is remembered, is not remembered. -/
theorem Top.keep {m : Nat} {top : Option (Nat × String)} (h : Top order labelKey bs m top)
    (hm : ∀ l k, RankedAt order labelKey bs m l k → ∃ t ∈ top, k < t.1) : Top order labelKey bs (m + 1) top where
  greatest := by
    intro j hj l k hranked
    rcases Nat.lt_succ_iff_lt_or_eq.mp hj with hlt | rfl
    · exact h.greatest j hlt l k hranked
    · obtain ⟨t, ht, hlt⟩ := hm l k hranked
      exact ⟨t, ht, Nat.le_of_lt hlt⟩
  leads := by
    intro t ht
    obtain ⟨i, hi, hranked, hgreatest⟩ := h.leads t ht
    refine ⟨i, Nat.lt_succ_of_lt hi, hranked, fun j hj l k hj' => ?_⟩
    rcases Nat.lt_succ_iff_lt_or_eq.mp hj with hlt | rfl
    · exact hgreatest j hlt l k hj'
    · obtain ⟨t', ht', hlt⟩ := hm l k hj'
      obtain rfl := Option.mem_unique ht ht'
      exact .inl hlt

/-- A child whose rank is not less than what is remembered is remembered from then on. -/
theorem Top.next {m k : Nat} {l : String} {top : Option (Nat × String)} (h : Top order labelKey bs m top)
    (hm : RankedAt order labelKey bs m l k) (hle : ∀ t ∈ top, t.1 ≤ k) :
    Top order labelKey bs (m + 1) (some (k, l)) := by
  have hbefore : ∀ j < m, ∀ l' k', RankedAt order labelKey bs j l' k' → k' ≤ k := by
    intro j hj l' k' hranked
    obtain ⟨t, ht, ht'⟩ := h.greatest j hj l' k' hranked
    exact Nat.le_trans ht' (hle t ht)
  constructor
  · intro j hj l' k' hranked
    rcases Nat.lt_succ_iff_lt_or_eq.mp hj with hlt | rfl
    · exact ⟨_, rfl, hbefore j hlt l' k' hranked⟩
    · obtain ⟨-, rfl⟩ := hm.unique hranked
      exact ⟨_, rfl, Nat.le_refl _⟩
  · rintro t ⟨⟩
    refine ⟨m, Nat.lt_succ_self m, hm, fun j hj l' k' hranked => ?_⟩
    rcases Nat.lt_succ_iff_lt_or_eq.mp hj with hlt | rfl
    · have hle' := hbefore j hlt l' k' hranked
      dsimp only
      omega
    · obtain ⟨-, rfl⟩ := hm.unique hranked
      exact .inr ⟨rfl, Nat.le_refl _⟩

/-! ## A whole walk -/

/-- The places, from `m` on, of the children that are out of place. -/
structure PlacesFrom (order : List String) (labelKey : Option String) (bs : List (Segment × Node)) (m : Nat)
    (places : List Nat) : Prop where
  /-- They are in source order, and none is listed twice. -/
  increasing : places.Pairwise (· < ·)
  /-- They are all there is. -/
  mem_iff : ∀ i, i ∈ places ↔ m ≤ i ∧ Displaced order labelKey bs i

theorem PlacesFrom.nil {m : Nat} (h : bs.length ≤ m) : PlacesFrom order labelKey bs m [] where
  increasing := .nil
  mem_iff := by
    intro i
    refine iff_of_false List.not_mem_nil ?_
    rintro ⟨hm, l, k, ⟨b, hb, -⟩, -⟩
    have hlt := (List.getElem?_eq_some_iff.mp hb).1
    omega

theorem PlacesFrom.skip {m : Nat} {places : List Nat} (h : PlacesFrom order labelKey bs (m + 1) places)
    (hm : ¬ Displaced order labelKey bs m) : PlacesFrom order labelKey bs m places where
  increasing := h.increasing
  mem_iff := by
    intro i
    rw [h.mem_iff]
    refine and_congr_left fun hi => ?_
    have hne : i ≠ m := fun heq => hm (heq ▸ hi)
    omega

theorem PlacesFrom.cons {m : Nat} {places : List Nat} (h : PlacesFrom order labelKey bs (m + 1) places)
    (hm : Displaced order labelKey bs m) : PlacesFrom order labelKey bs m (m :: places) where
  increasing := by
    refine List.Pairwise.cons ?_ h.increasing
    intro i hi
    have hlt := ((h.mem_iff i).mp hi).1
    omega
  mem_iff := by
    intro i
    rw [List.mem_cons, h.mem_iff]
    constructor
    · rintro (rfl | ⟨hlt, hi⟩)
      · exact ⟨Nat.le_refl _, hm⟩
      · exact ⟨by omega, hi⟩
    · rintro ⟨hle, hi⟩
      by_cases heq : i = m
      · exact .inl heq
      · exact .inr ⟨by omega, hi⟩

/-- The notes of a walk over children, of which it considers those with labels. -/
def walk (order : List String) (labelKey : Option String) (top : Option (Nat × String))
    (bs : List (Segment × Node)) : List Note :=
  outOfOrder order top (bs.filterMap fun b => (label? labelKey b).map fun l => (l, b.2))

theorem walk_unranked {b : Segment × Node} (h : ∀ l k, Labels labelKey b l → ¬ Ranks order l k)
    (top : Option (Nat × String)) (r : List (Segment × Node)) :
    walk order labelKey top (b :: r) = walk order labelKey top r := by
  unfold walk
  cases hl : label? labelKey b with
  | none => simp [hl]
  | some l =>
    have hk : rank? order l = none := by
      refine Option.eq_none_iff_forall_ne_some.mpr fun k hk => ?_
      exact h l k (label?_eq_some_iff.mp hl) (rank?_eq_some_iff.mp hk)
    simp [hl, outOfOrder, hk]

theorem walk_displaced {b : Segment × Node} {l : String} {k : Nat} {t : Nat × String} (hl : Labels labelKey b l)
    (hk : Ranks order l k) (hlt : k < t.1) (r : List (Segment × Node)) :
    walk order labelKey (some t) (b :: r) =
      (b.2, "'" ++ l ++ "' must appear before '" ++ t.2 ++ "'") :: walk order labelKey (some t) r := by
  have hlabel := label?_eq_some_iff.mpr hl
  have hrank := rank?_eq_some_iff.mpr hk
  simp [walk, hlabel, outOfOrder, hrank, hlt]

theorem walk_ordered {b : Segment × Node} {l : String} {k : Nat} {top : Option (Nat × String)}
    (hl : Labels labelKey b l) (hk : Ranks order l k) (hle : ∀ t ∈ top, t.1 ≤ k) (r : List (Segment × Node)) :
    walk order labelKey top (b :: r) = walk order labelKey (some (k, l)) r := by
  have hlabel := label?_eq_some_iff.mpr hl
  have hrank := rank?_eq_some_iff.mpr hk
  cases top with
  | none => simp [walk, hlabel, outOfOrder, hrank]
  | some t =>
    have hle' : ¬ k < t.1 := Nat.not_lt.mpr (hle t rfl)
    simp [walk, hlabel, outOfOrder, hrank, hle']

/-- A walk that has come to place `m` has notes about the children out of place from there on. -/
theorem walk_places {rest : List (Segment × Node)} {m : Nat} {top : Option (Nat × String)} (hrest : bs.drop m = rest)
    (h : Top order labelKey bs m top) : ∃ places, PlacesFrom order labelKey bs m places ∧
      List.Forall₂ (Told order labelKey bs) places (walk order labelKey top rest) := by
  induction rest generalizing m top with
  | nil => exact ⟨[], .nil (List.drop_eq_nil_iff.mp hrest), .nil⟩
  | cons b r ih =>
    have hb : bs[m]? = some b := by
      rw [← List.head?_drop, hrest, List.head?_cons]
    have hnext : bs.drop (m + 1) = r := by
      rw [← List.tail_drop, hrest, List.tail_cons]
    by_cases hranked : ∃ l k, Labels labelKey b l ∧ Ranks order l k
    · obtain ⟨l, k, hl, hk⟩ := hranked
      have hm : RankedAt order labelKey bs m l k := ⟨b, hb, hl, hk⟩
      by_cases hlt : ∃ t ∈ top, k < t.1
      · have hout : Displaced order labelKey bs m := h.displaced_iff.mpr ⟨l, k, hm, hlt⟩
        have htop : Top order labelKey bs (m + 1) top := by
          refine h.keep fun l' k' hm' => ?_
          obtain ⟨-, rfl⟩ := hm.unique hm'
          exact hlt
        obtain ⟨places, hplaces, hnotes⟩ := ih hnext htop
        obtain ⟨t, rfl, hlt⟩ := hlt
        rw [walk_displaced hl hk hlt]
        exact ⟨m :: places, hplaces.cons hout, .cons (.intro hb hl (h.leads t rfl)) hnotes⟩
      · have hle : ∀ t ∈ top, t.1 ≤ k := fun t ht => Nat.not_lt.mp fun hgt => hlt ⟨t, ht, hgt⟩
        have hin : ¬ Displaced order labelKey bs m := by
          rw [h.displaced_iff]
          rintro ⟨l', k', hm', hlt'⟩
          obtain ⟨-, rfl⟩ := hm.unique hm'
          exact hlt hlt'
        obtain ⟨places, hplaces, hnotes⟩ := ih hnext (h.next hm hle)
        rw [walk_ordered hl hk hle]
        exact ⟨places, hplaces.skip hin, hnotes⟩
    · have hunranked : ∀ l k, ¬ RankedAt order labelKey bs m l k := by
        rintro l k ⟨b', hb', hlabels⟩
        obtain rfl := Option.mem_unique hb hb'
        exact hranked ⟨l, k, hlabels⟩
      have hin : ¬ Displaced order labelKey bs m := by
        rintro ⟨l, k, hm, -⟩
        exact hunranked l k hm
      obtain ⟨places, hplaces, hnotes⟩ := ih hnext (h.keep fun l k hm => absurd hm (hunranked l k))
      rw [walk_unranked fun l k hl hk => hranked ⟨l, k, hl, hk⟩]
      exact ⟨places, hplaces.skip hin, hnotes⟩

end

end Ranking

end DocLint
