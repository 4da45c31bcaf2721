import DocLint.Decimal.Scaling
import DocLint.Proofs.Decimal.Overflow

/-!
# Proofs: when scaling leaves the doubles

Rounding never passes a natural number of units. Hence what is rounded is a double again, and what is rounded from one
on stays from one on. So a quotient by a power of ten is never infinite, however many divisions it takes, and a product
with one is infinite exactly if the exact product reaches the bound for doubles (`Binary.ofScaled_isSome_iff`).
-/

namespace DocLint.Decimal

/-! ## The nearest double -/

/-- The mantissa and exponent found are those of a rounded number of units, unless the mantissa was carried over. -/
theorem Ratio.of_nearest {r : Ratio} {m : Nat} {e unit : Int} (hunit : unit = max (r.floorLog2 - 52) (-1074))
    (h : r.nearest? = some (m, e)) :
    e ≤ 971 ∧ (m : ℚ) * 2 ^ e = r.roundBy unit * 2 ^ unit ∧
      (m = r.roundBy unit ∧ m ≠ 9007199254740992 ∨ m = 4503599627370496) := by
  unfold Ratio.nearest? at h
  dsimp only at h
  rw [← hunit] at h
  by_cases hcarry : r.roundBy unit = 9007199254740992
  · simp only [hcarry, if_true, Option.ite_none_left_eq_some, Option.some.injEq, Prod.mk.injEq] at h
    obtain ⟨hlarge, rfl, rfl⟩ := h
    refine ⟨not_lt.mp hlarge, ?_, .inr rfl⟩
    rw [hcarry, two_zpow_add]
    norm_num
    ring
  · simp only [hcarry, if_false, Option.ite_none_left_eq_some, Option.some.injEq, Prod.mk.injEq] at h
    obtain ⟨hlarge, rfl, rfl⟩ := h
    exact ⟨not_lt.mp hlarge, rfl, .inl ⟨rfl, hcarry⟩⟩

theorem Ratio.mantissa_lt_of_nearest {r : Ratio} (hn : 0 < r.num) (hd : 0 < r.den) {m : Nat} {e : Int}
    (h : r.nearest? = some (m, e)) : m < 9007199254740992 := by
  obtain ⟨-, -, ⟨hm, hne⟩ | hm⟩ := Ratio.of_nearest rfl h
  · obtain ⟨-, hhigh⟩ := r.floorLog2_spec hn hd
    have hle : r.toRat ≤ (9007199254740992 : Nat) * (2 : ℚ) ^ max (r.floorLog2 - 52) (-1074) := by
      calc r.toRat ≤ (2 : ℚ) ^ (r.floorLog2 + 1) := hhigh.le
        _ ≤ (2 : ℚ) ^ (53 + max (r.floorLog2 - 52) (-1074)) := zpow_le_zpow_right₀ (by norm_num) (by omega)
        _ = (9007199254740992 : Nat) * (2 : ℚ) ^ max (r.floorLog2 - 52) (-1074) := by
          rw [two_zpow_add]
          norm_num
    have hround := Ratio.roundBy_le hd hle
    omega
  · omega

theorem Ratio.floorLog2_nonneg {r : Ratio} (hn : 0 < r.num) (hd : 0 < r.den) (hone : 1 ≤ r.toRat) :
    0 ≤ r.floorLog2 := by
  obtain ⟨-, hhigh⟩ := r.floorLog2_spec hn hd
  by_contra hneg
  have hle : (2 : ℚ) ^ (r.floorLog2 + 1) ≤ (2 : ℚ) ^ (0 : Int) := zpow_le_zpow_right₀ (by norm_num) (by omega)
  rw [zpow_zero] at hle
  linarith

namespace Binary

/-- The magnitude of a double, as a number. -/
def toRat (b : Binary) : ℚ := b.magnitude.toRat

theorem toRat_eq (b : Binary) : b.toRat = b.mantissa * (2 : ℚ) ^ b.exponent := by
  rw [toRat, magnitude, Ratio.toRat_scaled b.mantissa (by decide), Nat.cast_ofNat]

theorem toRat_nonneg (b : Binary) : 0 ≤ b.toRat := by
  rw [toRat_eq]
  positivity

theorem den_magnitude_pos (b : Binary) : 0 < b.magnitude.den :=
  Ratio.den_scaled_pos b.mantissa (by decide) b.exponent

/-- A double whose mantissa and exponent are not above those of the greatest one. -/
structure InRange (b : Binary) : Prop where
  mantissa : b.mantissa < 9007199254740992
  exponent : b.exponent ≤ 971

theorem InRange.toRat_lt {b : Binary} (h : b.InRange) : b.toRat < overflowBound := by
  have hmantissa : (b.mantissa : ℚ) ≤ 2 ^ 53 - 1 := by
    have hle : b.mantissa + 1 ≤ 2 ^ 53 := h.mantissa
    have hle' : (b.mantissa : ℚ) + 1 ≤ 2 ^ 53 := by exact_mod_cast hle
    linarith
  have hpos : (0 : ℚ) < 2 ^ (970 : Int) := by positivity
  calc b.toRat = b.mantissa * (2 : ℚ) ^ b.exponent := b.toRat_eq
    _ ≤ (2 ^ 53 - 1) * (2 : ℚ) ^ (971 : Int) :=
      mul_le_mul hmantissa (zpow_le_zpow_right₀ (by norm_num) h.exponent) (by positivity) (by norm_num)
    _ = (2 ^ 54 - 2) * (2 : ℚ) ^ (970 : Int) := by
      rw [show (971 : Int) = 1 + 970 by norm_num, two_zpow_add]
      ring
    _ < overflowBound := by
      rw [overflowBound]
      exact mul_lt_mul_of_pos_right (by norm_num) hpos

theorem overflowBound_pos : 0 < overflowBound :=
  lt_of_lt_of_le (by positivity) le_overflowBound

theorem ofRatio_isSome_iff {r : Ratio} (hd : 0 < r.den) : (ofRatio? r).isSome = true ↔ r.toRat < overflowBound := by
  unfold ofRatio?
  split_ifs with hn
  · simp [Ratio.toRat, hn, overflowBound_pos]
  · rw [Option.isSome_map, Ratio.nearest_isSome_iff (Nat.pos_of_ne_zero hn) hd]

theorem inRange_of_ofRatio {r : Ratio} (hd : 0 < r.den) {b : Binary} (h : ofRatio? r = some b) : b.InRange := by
  unfold ofRatio? at h
  split_ifs at h with hn
  · cases h
    exact ⟨by decide, by decide⟩
  · obtain ⟨⟨m, e⟩, hnearest, rfl⟩ := Option.map_eq_some_iff.mp h
    exact ⟨Ratio.mantissa_lt_of_nearest (Nat.pos_of_ne_zero hn) hd hnearest, (Ratio.of_nearest rfl hnearest).1⟩

/-- What is at least one is not rounded below one. -/
theorem one_le_of_ofRatio {r : Ratio} (hd : 0 < r.den) (hone : 1 ≤ r.toRat) {b : Binary} (h : ofRatio? r = some b) :
    1 ≤ b.toRat := by
  unfold ofRatio? at h
  split_ifs at h with hn
  · rw [Ratio.toRat, hn] at hone
    norm_num at hone
  · obtain ⟨⟨m, e⟩, hnearest, rfl⟩ := Option.map_eq_some_iff.mp h
    obtain ⟨hlow, -⟩ := r.floorLog2_spec (Nat.pos_of_ne_zero hn) hd
    have hlog : 0 ≤ r.floorLog2 := Ratio.floorLog2_nonneg (Nat.pos_of_ne_zero hn) hd hone
    have hunit : r.floorLog2 - 52 = max (r.floorLog2 - 52) (-1074) := by omega
    obtain ⟨-, hvalue, -⟩ := Ratio.of_nearest hunit hnearest
    have hsplit : ((2 ^ 52 : Nat) : ℚ) * (2 : ℚ) ^ (r.floorLog2 - 52) = (2 : ℚ) ^ r.floorLog2 := by
      rw [Nat.cast_pow, Nat.cast_ofNat, ← zpow_natCast, ← two_zpow_add]
      congr 1
      omega
    have hround : 2 ^ 52 ≤ r.roundBy (r.floorLog2 - 52) := Ratio.le_roundBy hd (hsplit.trans_le hlow)
    calc (1 : ℚ) = (2 : ℚ) ^ (0 : Int) := by norm_num
      _ ≤ (2 : ℚ) ^ r.floorLog2 := zpow_le_zpow_right₀ (by norm_num) hlog
      _ = ((2 ^ 52 : Nat) : ℚ) * (2 : ℚ) ^ (r.floorLog2 - 52) := hsplit.symm
      _ ≤ r.roundBy (r.floorLog2 - 52) * (2 : ℚ) ^ (r.floorLog2 - 52) := by gcongr
      _ = (m : ℚ) * 2 ^ e := hvalue.symm
      _ = toRat ⟨false, m, e⟩ := (toRat_eq ⟨false, m, e⟩).symm

/-- A natural below the bound has a nearest double. -/
theorem exists_ofRatio {n : Nat} (hn : (n : ℚ) < overflowBound) : ∃ b, ofRatio? ⟨n, 1⟩ = some b ∧ b.InRange := by
  obtain ⟨b, hb⟩ := Option.isSome_iff_exists.mp
    ((ofRatio_isSome_iff Nat.one_pos).mpr ((Ratio.toRat_natural n).trans_lt hn))
  exact ⟨b, hb, inRange_of_ofRatio Nat.one_pos hb⟩

/-- Only zero is rounded to zero. -/
theorem mantissa_eq_zero_iff {n : Nat} {b : Binary} (hb : ofRatio? ⟨n, 1⟩ = some b) : b.mantissa = 0 ↔ n = 0 := by
  constructor
  · intro hm
    by_contra hne
    have hone : 1 ≤ b.toRat := by
      refine one_le_of_ofRatio Nat.one_pos ?_ hb
      rw [Ratio.toRat_natural]
      exact_mod_cast Nat.one_le_iff_ne_zero.mpr hne
    rw [toRat_eq, hm, Nat.cast_zero, zero_mul] at hone
    norm_num at hone
  · rintro rfl
    cases hb
    rfl

/-! ## Products, quotients and powers of ten -/

theorem mul_isSome_iff (b c : Binary) : (b.mul? c).isSome = true ↔ b.toRat * c.toRat < overflowBound := by
  have hd : 0 < (b.magnitude.mul c.magnitude).den := Nat.mul_pos b.den_magnitude_pos c.den_magnitude_pos
  have hrat : (b.magnitude.mul c.magnitude).toRat = b.toRat * c.toRat := by
    simp only [Ratio.mul, Ratio.toRat, toRat]
    push_cast
    exact mul_div_mul_comm _ _ _ _
  rw [mul?, ofRatio_isSome_iff hd, hrat]

/-- A double divided by one that is not below one is a double. -/
theorem exists_div {b c : Binary} (hb : b.InRange) (hc : 1 ≤ c.toRat) : ∃ q, b.div? c = some q ∧ q.InRange := by
  have hnum : 0 < c.magnitude.num := by
    by_contra hzero
    rw [toRat, Ratio.toRat, Nat.eq_zero_of_not_pos hzero] at hc
    norm_num at hc
  have hd : 0 < (b.magnitude.div c.magnitude).den := Nat.mul_pos b.den_magnitude_pos hnum
  have hrat : (b.magnitude.div c.magnitude).toRat = b.toRat / c.toRat := by
    simp only [Ratio.div, Ratio.toRat, toRat]
    push_cast
    exact (div_div_div_eq _ _ _ _).symm
  have hlt : (b.magnitude.div c.magnitude).toRat < overflowBound := by
    rw [hrat]
    exact lt_of_le_of_lt (div_le_self b.toRat_nonneg hc) hb.toRat_lt
  obtain ⟨q, hq⟩ := Option.isSome_iff_exists.mp ((ofRatio_isSome_iff hd).mpr hlt)
  exact ⟨q, hq, inRange_of_ofRatio hd hq⟩

/-- The powers of ten below the bound are those up to `10 ^ 308`. -/
theorem ten_pow_lt_overflowBound_iff {n : Nat} : ((10 ^ n : Nat) : ℚ) < overflowBound ↔ n ≤ 308 := by
  have hcast : ∀ c k : Nat, ((c * 2 ^ k : Nat) : ℚ) = c * (2 : ℚ) ^ (k : Int) := fun c k => by
    rw [zpow_natCast]
    push_cast
    rfl
  have hbound : overflowBound = ((18014398509481983 * 2 ^ 970 : Nat) : ℚ) := by
    rw [hcast, overflowBound]
    norm_num
  rw [hbound, Nat.cast_lt]
  constructor
  · intro h
    by_contra hn
    have hlarge : 18014398509481983 * 2 ^ 970 ≤ 10 ^ 309 := by decide +kernel
    have hpow : 10 ^ 309 ≤ 10 ^ n := pow_le_pow_right₀ (by decide) (by omega)
    exact absurd h (not_lt.mpr (hlarge.trans hpow))
  · intro hn
    have hsmall : 10 ^ 308 < 18014398509481983 * 2 ^ 970 := by decide +kernel
    exact lt_of_le_of_lt (pow_le_pow_right₀ (by decide) hn) hsmall

theorem ten_isSome_iff {n : Nat} : (ten? n).isSome = true ↔ n ≤ 308 := by
  rw [ten?, ofRatio_isSome_iff Nat.one_pos, Ratio.toRat_natural, Nat.pow_eq, ten_pow_lt_overflowBound_iff]

theorem exists_ten {n : Nat} (hn : n ≤ 308) : ∃ t, ten? n = some t ∧ 1 ≤ t.toRat := by
  obtain ⟨t, ht⟩ := Option.isSome_iff_exists.mp (ten_isSome_iff.mpr hn)
  refine ⟨t, ht, one_le_of_ofRatio Nat.one_pos ?_ ht⟩
  rw [Ratio.toRat_natural]
  exact_mod_cast Nat.one_le_pow n 10 (by decide)

/-! ## Scaling -/

/-- A double divided by a power of ten is a double, however many divisions that takes. -/
theorem exists_shrink {b : Binary} (hb : b.InRange) (n : Nat) : ∃ c, b.shrink? n = some c := by
  induction n using Nat.strong_induction_on generalizing b with
  | _ n ih =>
    rw [shrink?]
    split_ifs with hn hzero
    · obtain ⟨t, ht, hone⟩ := exists_ten hn
      obtain ⟨q, hq, -⟩ := exists_div hb hone
      exact ⟨q, by rw [ht, Option.bind_some, hq]⟩
    · exact ⟨b, rfl⟩
    · obtain ⟨t, ht, hone⟩ := exists_ten (le_refl 308)
      obtain ⟨q, hq, hrange⟩ := exists_div hb hone
      obtain ⟨c, hc⟩ := ih (n - 308) (by omega) hrange
      exact ⟨c, by rw [ht, Option.bind_some, hq, Option.bind_some, hc]⟩

/-- A double other than zero times a power of ten is a double exactly if the power is one and the exact product of the
two stays below the bound. -/
theorem grow_isSome_iff (b : Binary) (n : Nat) :
    (b.grow? n).isSome = true ↔ b.mantissa = 0 ∨ ∃ t, ten? n = some t ∧ b.toRat * t.toRat < overflowBound := by
  have hzero : b.mantissa = 0 → b.toRat = 0 := fun h => by rw [toRat_eq, h, Nat.cast_zero, zero_mul]
  unfold grow?
  split_ifs with hn hm
  · obtain ⟨t, ht, -⟩ := exists_ten hn
    rw [ht, Option.bind_some, mul_isSome_iff]
    constructor
    · exact fun h => .inr ⟨t, rfl, h⟩
    · rintro (h | ⟨s, hs, hlt⟩)
      · rw [hzero h, zero_mul]
        exact overflowBound_pos
      · cases hs
        exact hlt
  · simp [hm]
  · have hnone : ten? n = none := Option.not_isSome_iff_eq_none.mp fun h => hn (ten_isSome_iff.mp h)
    simp [hm, hnone]

/-- A natural of 64 bits scaled by a power of ten is a double exactly if it is zero, if it is divided, or if the doubles
nearest to it and to the power have a product below the bound. -/
theorem ofScaled_isSome_iff (negative : Bool) {n : Nat} (hn : (n : ℚ) < overflowBound) (e : Int) :
    (ofScaled? negative n e).isSome = true ↔
      n = 0 ∨ e < 0 ∨ ∃ b t, ofRatio? ⟨n, 1⟩ = some b ∧ ten? e.toNat = some t ∧ b.toRat * t.toRat < overflowBound := by
  obtain ⟨b, hb, hrange⟩ := exists_ofRatio hn
  rw [ofScaled?, hb, Option.isSome_map, Option.bind_some]
  cases e with
  | ofNat k =>
    have hk : ¬ Int.ofNat k < 0 := not_lt.mpr (Int.natCast_nonneg k)
    rw [scale?, grow_isSome_iff, mantissa_eq_zero_iff hb]
    simp only [hk, false_or, Option.some.injEq, exists_and_left, exists_eq_left']
    rfl
  | negSucc k =>
    obtain ⟨c, hc⟩ := exists_shrink hrange (k + 1)
    simp [scale?, hc, Int.negSucc_lt_zero]

end Binary

end DocLint.Decimal
