import DocLint.Decimal.Binary

/-!
# Scaling by powers of ten

A decimal number is turned into a double in floating arithmetic: its digits are made a double, and that is
multiplied or divided by a power of ten, which is a double, too. Each operation is exact and then rounded
once to the nearest double. Two or three such steps need not end at the double nearest to the number, as
`Binary.ofDecimal?` does.

All doubles here are without a sign; `Binary.ofScaled?` puts it on at the end.
-/

namespace DocLint.Decimal

/-- The product of two rationals. -/
def Ratio.mul (r s : Ratio) : Ratio := ⟨r.num * s.num, r.den * s.den⟩

/-- The quotient of a rational by a positive one. -/
def Ratio.div (r s : Ratio) : Ratio := ⟨r.num * s.den, r.den * s.num⟩

namespace Binary

/-- Zero. -/
def zero : Binary := ⟨false, 0, -1074⟩

/-- The magnitude of a double. -/
def magnitude (b : Binary) : Ratio := .scaled b.mantissa 2 b.exponent

/-- The double nearest to a rational; none if that is infinite. -/
def ofRatio? (r : Ratio) : Option Binary :=
  if r.num = 0 then some zero else r.nearest?.map fun (m, e) => ⟨false, m, e⟩

/-- The product of two doubles, rounded; none if it is infinite. -/
def mul? (b c : Binary) : Option Binary :=
  ofRatio? (b.magnitude.mul c.magnitude)

/-- The quotient of two doubles, rounded; none if it is infinite. -/
def div? (b c : Binary) : Option Binary :=
  ofRatio? (b.magnitude.div c.magnitude)

/-- The double nearest to `10 ^ n`; none if that is infinite. -/
def ten? (n : Nat) : Option Binary :=
  ofRatio? ⟨Nat.pow 10 n, 1⟩

/-- A double times `10 ^ n`. From `10 ^ 309` on powers of ten are infinite, and so is the product unless the
double is zero. -/
def grow? (b : Binary) (n : Nat) : Option Binary :=
  if n ≤ 308 then (ten? n).bind b.mul?
  else if b.mantissa = 0 then some b
  else none

/-- A double divided by `10 ^ n`, by `10 ^ 308` first as long as the power of ten is infinite. -/
def shrink? (b : Binary) (n : Nat) : Option Binary :=
  if n ≤ 308 then (ten? n).bind b.div?
  else if b.mantissa = 0 then some b
  else ((ten? 308).bind b.div?).bind fun c => c.shrink? (n - 308)
termination_by n

/-- A double scaled by `10 ^ e`. -/
def scale? (b : Binary) : Int → Option Binary
  | .ofNat n => b.grow? n
  | .negSucc n => b.shrink? (n + 1)

/-- The double that a natural scaled by `10 ^ e` is turned into; none if it is infinite on the way. -/
def ofScaled? (negative : Bool) (significand : Nat) (e : Int) : Option Binary :=
  ((ofRatio? ⟨significand, 1⟩).bind (·.scale? e)).map fun b => { b with negative := negative }

end Binary

end DocLint.Decimal
