/-!
# Doubles, exactly

A finite double is a sign and a number `mantissa * 2 ^ exponent`. Decimal numbers are rounded to the
nearest double, ties to the even mantissa, in exact arithmetic on naturals: no floating operation is
involved, so what a literal means can be reasoned about.
-/

namespace DocLint.Decimal

/-- A finite double: `mantissa * 2 ^ exponent`, negated if `negative`. -/
structure Binary where
  /-- The sign; a zero has one, too. -/
  negative : Bool
  /-- The mantissa, below `2 ^ 53`. -/
  mantissa : Nat
  /-- The exponent, from -1074 to 971. -/
  exponent : Int
  deriving DecidableEq, Repr

/-- A positive rational, as a numerator and a denominator. -/
structure Ratio where
  /-- The numerator. -/
  num : Nat
  /-- The denominator. -/
  den : Nat

/-- The rational `n * base ^ e`. -/
def Ratio.scaled (n base : Nat) : Int → Ratio
  | .ofNat e => ⟨n * Nat.pow base e, 1⟩
  | .negSucc e => ⟨n, Nat.pow base (e + 1)⟩

/-- Whether the rational is at least `base ^ e`. -/
def Ratio.reaches (r : Ratio) (base : Nat) : Int → Bool
  | .ofNat e => r.den * Nat.pow base e ≤ r.num
  | .negSucc e => r.den ≤ r.num * Nat.pow base (e + 1)

/-- The quotient of two naturals, rounded to the nearest natural, ties to even. -/
def roundDiv (num den : Nat) : Nat :=
  let down := num / den
  let twice := 2 * (num % den)
  if twice < den then down
  else if den < twice then down + 1
  else if down % 2 = 0 then down
  else down + 1

/-- The quotient by `2 ^ e`, rounded. -/
def Ratio.roundBy (r : Ratio) : Int → Nat
  | .ofNat e => roundDiv r.num (r.den * Nat.pow 2 e)
  | .negSucc e => roundDiv (r.num * Nat.pow 2 (e + 1)) r.den

/-- The greatest `e` such that `2 ^ e` does not exceed a positive rational. -/
def Ratio.floorLog2 (r : Ratio) : Int :=
  let e : Int := (r.num.log2 : Int) - (r.den.log2 : Int)
  if r.reaches 2 e then e else e - 1

/-- The magnitude nearest to a positive rational; none if it is too large for a double. -/
def Ratio.nearest? (r : Ratio) : Option (Nat × Int) :=
  let e := max (r.floorLog2 - 52) (-1074)
  let m := r.roundBy e
  let (m, e) := if m = 9007199254740992 then (4503599627370496, e + 1) else (m, e)
  if e > 971 then none else some (m, e)

/-- The number of decimal digits of a natural; zero has one. -/
def digitCount (n : Nat) : Nat :=
  (Nat.toDigits 10 n).length

/-- The double nearest to `digits * 10 ^ exponent`; none if it is too large. The exponents that cannot
matter are settled by the number of digits alone. -/
def Binary.ofDecimal? (negative : Bool) (digits : Nat) (exponent : Int) : Option Binary :=
  if digits = 0 then some ⟨negative, 0, -1074⟩
  else
    let top := exponent + digitCount digits
    if top > 400 then none
    else if top < -400 then some ⟨negative, 0, -1074⟩
    else ((Ratio.scaled digits 10 exponent).nearest?).map fun (m, e) => ⟨negative, m, e⟩

end DocLint.Decimal
