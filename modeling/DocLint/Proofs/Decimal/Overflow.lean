import DocLint.Decimal.Binary
import Mathlib.Algebra.Order.Field.Power
import Mathlib.Data.Nat.Log
import Mathlib.Data.Rat.Defs
import Mathlib.Data.Rat.Cast.Order
import Mathlib.Tactic

/-!
# Proofs: when a number is too large for a double

A rational has no nearest double exactly if it reaches `(2 ^ 54 - 1) * 2 ^ 970`, half a unit in the last
place above the greatest double: from there on rounding to the nearest leaves the exponents of doubles.
-/

namespace DocLint.Decimal

/-- The bound from which on a magnitude is too large for a double. -/
def overflowBound : ℚ := (2 ^ 54 - 1) * (2 : ℚ) ^ (970 : Int)

/-- A rational as a number. -/
def Ratio.toRat (r : Ratio) : ℚ := r.num / r.den

theorem Ratio.toRat_natural (n : Nat) : (⟨n, 1⟩ : Ratio).toRat = n := by
  simp [Ratio.toRat]

theorem Ratio.toRat_scaled (n : Nat) {base : Nat} (hb : 0 < base) (e : Int) :
    (Ratio.scaled n base e).toRat = n * (base : ℚ) ^ e := by
  cases e with
  | ofNat e => simp [Ratio.scaled, Ratio.toRat, Nat.pow_eq]
  | negSucc e =>
    have hb' : (base : ℚ) ≠ 0 := by positivity
    simp [Ratio.scaled, Ratio.toRat, Nat.pow_eq, zpow_negSucc, div_eq_mul_inv]

theorem Ratio.den_scaled_pos (n : Nat) {base : Nat} (hb : 0 < base) (e : Int) :
    0 < (Ratio.scaled n base e).den := by
  cases e with
  | ofNat e => simp [Ratio.scaled]
  | negSucc e => simpa [Ratio.scaled, Nat.pow_eq] using Nat.pow_pos hb

theorem Ratio.reaches_iff {r : Ratio} (hd : 0 < r.den) {base : Nat} (hb : 0 < base) (e : Int) :
    r.reaches base e = true ↔ (base : ℚ) ^ e ≤ r.toRat := by
  have hd' : (0 : ℚ) < r.den := by exact_mod_cast hd
  cases e with
  | ofNat e =>
    rw [Ratio.toRat, le_div_iff₀ hd']
    simp only [Ratio.reaches, decide_eq_true_eq, Int.ofNat_eq_natCast, zpow_natCast, Nat.pow_eq]
    rw [mul_comm]
    exact_mod_cast Iff.rfl
  | negSucc e =>
    have hp : (0 : ℚ) < (base : ℚ) ^ (e + 1) := by positivity
    rw [Ratio.toRat, le_div_iff₀ hd', zpow_negSucc, inv_mul_le_iff₀ hp]
    simp only [Ratio.reaches, decide_eq_true_eq, Nat.pow_eq]
    rw [mul_comm r.num]
    exact_mod_cast Iff.rfl

/-- The greatest power of two below a positive rational. -/
theorem Ratio.floorLog2_spec {r : Ratio} (hn : 0 < r.num) (hd : 0 < r.den) :
    (2 : ℚ) ^ r.floorLog2 ≤ r.toRat ∧ r.toRat < (2 : ℚ) ^ (r.floorLog2 + 1) := by
  have hd' : (0 : ℚ) < r.den := by exact_mod_cast hd
  have hnlow : (2 : ℚ) ^ (r.num.log2 : Int) ≤ r.num := by
    exact_mod_cast Nat.log2_self_le hn.ne'
  have hnhigh : (r.num : ℚ) < (2 : ℚ) ^ ((r.num.log2 : Int) + 1) := by
    exact_mod_cast Nat.lt_log2_self
  have hdlow : (2 : ℚ) ^ (r.den.log2 : Int) ≤ r.den := by
    exact_mod_cast Nat.log2_self_le hd.ne'
  have hdhigh : (r.den : ℚ) < (2 : ℚ) ^ ((r.den.log2 : Int) + 1) := by
    exact_mod_cast Nat.lt_log2_self
  have hreaches : r.reaches 2 ((r.num.log2 : Int) - (r.den.log2 : Int)) = true ↔
      ((2 : Nat) : ℚ) ^ ((r.num.log2 : Int) - (r.den.log2 : Int)) ≤ r.toRat :=
    Ratio.reaches_iff hd (by decide) _
  unfold Ratio.floorLog2
  generalize (r.num.log2 : Int) = a at *
  generalize (r.den.log2 : Int) = b at *
  have hlow : (2 : ℚ) ^ (a - b - 1) ≤ r.toRat := by
    rw [Ratio.toRat, le_div_iff₀ hd']
    calc (2 : ℚ) ^ (a - b - 1) * r.den
        ≤ (2 : ℚ) ^ (a - b - 1) * (2 : ℚ) ^ (b + 1) := by gcongr
      _ = (2 : ℚ) ^ a := by rw [← zpow_add₀ (by norm_num)]; congr 1; ring
      _ ≤ r.num := hnlow
  have hhigh : r.toRat < (2 : ℚ) ^ (a - b + 1) := by
    rw [Ratio.toRat, div_lt_iff₀ hd']
    calc (r.num : ℚ) < (2 : ℚ) ^ (a + 1) := hnhigh
      _ = (2 : ℚ) ^ (a - b + 1) * (2 : ℚ) ^ b := by
        rw [← zpow_add₀ (by norm_num)]; congr 1; ring
      _ ≤ (2 : ℚ) ^ (a - b + 1) * r.den := by gcongr
  dsimp only
  split
  · case isTrue h => exact ⟨by simpa using hreaches.mp h, hhigh⟩
  · case isFalse h =>
    refine ⟨hlow, ?_⟩
    have hlt : ¬ (2 : ℚ) ^ (a - b) ≤ r.toRat := fun hle => h (hreaches.mpr (by simpa using hle))
    simpa using hlt

/-! ## Rounding quotients -/

/-- Rounding does not go below a natural that the quotient reaches. -/
theorem le_roundDiv {n d k : Nat} (hd : 0 < d) (h : k * d ≤ n) : k ≤ roundDiv n d := by
  have hdown : k ≤ n / d := (Nat.le_div_iff_mul_le hd).mpr h
  unfold roundDiv
  dsimp only
  split_ifs <;> omega

/-- Rounding does not go above a natural that the quotient does not exceed. -/
theorem roundDiv_le {n d k : Nat} (hd : 0 < d) (h : n ≤ k * d) : roundDiv n d ≤ k := by
  rcases h.lt_or_eq with hlt | rfl
  · have hdown : n / d < k := (Nat.div_lt_iff_lt_mul hd).mpr hlt
    unfold roundDiv
    dsimp only
    split_ifs <;> omega
  · simp [roundDiv, Nat.mul_div_cancel k hd, hd]

/-- A quotient below the even number `m` is rounded up to `m` exactly from half a unit below `m` on. -/
theorem roundDiv_eq_iff {n d m : Nat} (hd : 0 < d) (hm : m % 2 = 0) (hlt : n < m * d) :
    roundDiv n d = m ↔ (2 * m - 1) * d ≤ 2 * n := by
  have hdiv : d * (n / d) + n % d = n := Nat.div_add_mod n d
  have hmod : n % d < d := Nat.mod_lt n hd
  have hdown : n / d < m := (Nat.div_lt_iff_lt_mul hd).mpr hlt
  unfold roundDiv
  dsimp only
  generalize n / d = q at *
  generalize n % d = t at *
  -- Only the quotient just below `m` can be rounded to `m`; any other one is too small on both sides.
  by_cases hq : q + 1 = m
  · have hexp : (2 * m - 1) * d = 2 * (d * q) + d := by
      rw [← hq, show 2 * (q + 1) - 1 = 2 * q + 1 by omega]; ring
    rw [hexp]
    split_ifs <;> omega
  · have hfar : 2 * (d * q) + 3 * d ≤ (2 * m - 1) * d := by
      calc 2 * (d * q) + 3 * d = (2 * q + 3) * d := by ring
        _ ≤ (2 * m - 1) * d := Nat.mul_le_mul_right d (by omega)
    split_ifs <;> omega

/-- Rounding by a power of two rounds the quotient of two naturals. -/
theorem Ratio.exists_roundBy_eq {r : Ratio} (hd : 0 < r.den) (e : Int) :
    ∃ n d : Nat, 0 < d ∧ r.toRat = (n : ℚ) / d * (2 : ℚ) ^ e ∧ r.roundBy e = roundDiv n d := by
  have hd' : (r.den : ℚ) ≠ 0 := by exact_mod_cast hd.ne'
  cases e with
  | ofNat k =>
    refine ⟨r.num, r.den * 2 ^ k, by positivity, ?_, rfl⟩
    simp only [Ratio.toRat, Int.ofNat_eq_natCast, zpow_natCast]
    push_cast
    field_simp
  | negSucc k =>
    refine ⟨r.num * 2 ^ (k + 1), r.den, hd, ?_, rfl⟩
    simp only [Ratio.toRat, zpow_negSucc]
    push_cast
    field_simp

theorem Ratio.le_roundBy {r : Ratio} (hd : 0 < r.den) {k : Nat} {e : Int} (h : k * (2 : ℚ) ^ e ≤ r.toRat) :
    k ≤ r.roundBy e := by
  obtain ⟨n, d, hpos, hrat, hround⟩ := Ratio.exists_roundBy_eq hd e
  rw [hrat, mul_le_mul_iff_left₀ (by positivity), le_div_iff₀ (by exact_mod_cast hpos)] at h
  rw [hround]
  exact le_roundDiv hpos (by exact_mod_cast h)

theorem Ratio.roundBy_le {r : Ratio} (hd : 0 < r.den) {k : Nat} {e : Int} (h : r.toRat ≤ k * (2 : ℚ) ^ e) :
    r.roundBy e ≤ k := by
  obtain ⟨n, d, hpos, hrat, hround⟩ := Ratio.exists_roundBy_eq hd e
  rw [hrat, mul_le_mul_iff_left₀ (by positivity), div_le_iff₀ (by exact_mod_cast hpos)] at h
  rw [hround]
  exact roundDiv_le hpos (by exact_mod_cast h)

/-! ## Rounding at the greatest exponent -/

theorem two_zpow_add (a b : Int) : (2 : ℚ) ^ (a + b) = (2 : ℚ) ^ a * (2 : ℚ) ^ b :=
  zpow_add₀ (by norm_num) a b

theorem le_overflowBound : (2 : ℚ) ^ (1023 : Int) ≤ overflowBound := by
  rw [show (1023 : Int) = 53 + 970 by norm_num, two_zpow_add, overflowBound]
  gcongr
  norm_num

theorem overflowBound_le : overflowBound ≤ (2 : ℚ) ^ (1024 : Int) := by
  rw [show (1024 : Int) = 54 + 970 by norm_num, two_zpow_add, overflowBound]
  gcongr
  norm_num

/-- At the greatest exponent, the mantissa is rounded out of its range exactly from the bound on. -/
theorem Ratio.roundBy_top_iff {r : Ratio} (hd : 0 < r.den) (hlt : r.toRat < (2 : ℚ) ^ (1024 : Int)) :
    r.roundBy ((971 : Nat) : Int) = 9007199254740992 ↔ overflowBound ≤ r.toRat := by
  have hd' : (0 : ℚ) < r.den := by exact_mod_cast hd
  have hcast : ((2 ^ 971 : Nat) : ℚ) = 2 * (2 : ℚ) ^ (970 : Int) := by
    rw [Nat.cast_pow, Nat.cast_ofNat, ← zpow_natCast,
      show ((971 : Nat) : Int) = 1 + 970 by norm_num, two_zpow_add, zpow_one]
  have hsmall : r.num < 9007199254740992 * (r.den * 2 ^ 971) := by
    rw [show (1024 : Int) = 54 + 970 by norm_num, two_zpow_add, Ratio.toRat, div_lt_iff₀ hd'] at hlt
    have hq : (r.num : ℚ) < ((9007199254740992 * (r.den * 2 ^ 971) : Nat) : ℚ) := by
      calc (r.num : ℚ) < 2 ^ (54 : Int) * 2 ^ (970 : Int) * r.den := hlt
        _ = ((9007199254740992 * (r.den * 2 ^ 971) : Nat) : ℚ) := by
          rw [Nat.cast_mul, Nat.cast_mul, hcast]
          generalize (2 : ℚ) ^ (970 : Int) = u
          norm_num
          ring
    exact_mod_cast hq
  have hround : ∀ k : Nat, r.roundBy k = roundDiv r.num (r.den * 2 ^ k) := fun _ => rfl
  rw [hround, roundDiv_eq_iff (by positivity) (by norm_num) hsmall, Ratio.toRat, le_div_iff₀ hd', overflowBound]
  have hleft : (((2 * 9007199254740992 - 1) * (r.den * 2 ^ 971) : Nat) : ℚ) =
      2 * ((2 ^ 54 - 1) * 2 ^ (970 : Int) * r.den) := by
    rw [Nat.cast_mul, Nat.cast_mul, hcast]
    generalize (2 : ℚ) ^ (970 : Int) = u
    norm_num
    ring
  rw [← Nat.cast_le (α := ℚ), hleft, Nat.cast_mul]
  generalize (2 : ℚ) ^ (970 : Int) = u
  push_cast
  constructor <;> intro h <;> linarith

/-- A rational has a nearest double exactly if the rounded exponent is one of doubles. -/
theorem Ratio.nearest_isSome_iff_exponent (r : Ratio) :
    r.nearest?.isSome = true ↔
      (if r.roundBy (max (r.floorLog2 - 52) (-1074)) = 9007199254740992
        then max (r.floorLog2 - 52) (-1074) + 1 else max (r.floorLog2 - 52) (-1074)) ≤ 971 := by
  unfold Ratio.nearest?
  dsimp only
  split_ifs <;> simp_all
  omega

/-- A positive rational has a nearest double exactly below the bound. -/
theorem Ratio.nearest_isSome_iff {r : Ratio} (hn : 0 < r.num) (hd : 0 < r.den) :
    r.nearest?.isSome = true ↔ r.toRat < overflowBound := by
  obtain ⟨hlow, hhigh⟩ := r.floorLog2_spec hn hd
  rw [Ratio.nearest_isSome_iff_exponent]
  -- Rounding decides only at the greatest exponent: below it there is room for one more, above it none.
  rcases lt_trichotomy r.floorLog2 1023 with hL | hL | hL
  · have hle : (2 : ℚ) ^ (r.floorLog2 + 1) ≤ (2 : ℚ) ^ (1023 : Int) :=
      zpow_le_zpow_right₀ (by norm_num) (by omega)
    have hlt : r.toRat < overflowBound := lt_of_lt_of_le hhigh (hle.trans le_overflowBound)
    refine ⟨fun _ => hlt, fun _ => ?_⟩
    split_ifs <;> omega
  · have he : max (r.floorLog2 - 52) (-1074) = ((971 : Nat) : Int) := by omega
    rw [hL] at hhigh
    have htop := Ratio.roundBy_top_iff hd hhigh
    rw [he]
    by_cases hr : r.roundBy ((971 : Nat) : Int) = 9007199254740992
    · rw [if_pos hr]
      exact ⟨fun h => absurd h (by norm_num), fun h => absurd (htop.mp hr) (not_le.mpr h)⟩
    · rw [if_neg hr]
      exact ⟨fun _ => not_le.mp fun h => hr (htop.mpr h), fun _ => by norm_num⟩
  · have hge : overflowBound ≤ r.toRat :=
      overflowBound_le.trans ((zpow_le_zpow_right₀ (by norm_num) (by omega)).trans hlow)
    refine ⟨fun h => ?_, fun h => absurd hge (not_le.mpr h)⟩
    split_ifs at h <;> omega

end DocLint.Decimal
