import DocLint.Decimal.Binary

/-!
# The shortest decimal of a double

Every real near a double rounds to it. Among the decimals with the fewest digits in that interval the
one nearest to the double is chosen. For each number of digits only the two neighbours of the double on
the decimal grid can qualify, so at most 17 grids are tried.
-/

namespace DocLint.Decimal

/-- A decimal number `digits * 10 ^ exponent`. -/
structure Scientific where
  /-- The digits, as a natural. -/
  digits : Nat
  /-- The exponent of the last digit. -/
  exponent : Int
  deriving DecidableEq, Repr

/-- The reals that round to a positive double, as numerators over a common denominator. -/
structure Interval where
  /-- The double itself. -/
  value : Nat
  /-- The lower end. -/
  low : Nat
  /-- The upper end. -/
  high : Nat
  /-- The common denominator. -/
  den : Nat
  /-- Whether the ends belong to it. -/
  closed : Bool

/-- The interval of a double. Just above a power of two the lower neighbour is twice as near. -/
def Binary.interval (b : Binary) : Interval :=
  let step := if b.mantissa = 4503599627370496 ∧ b.exponent > -1074 then 1 else 2
  let (scale, den) : Nat × Nat :=
    match b.exponent - 2 with
    | .ofNat e => (Nat.pow 2 e, 1)
    | .negSucc e => (1, Nat.pow 2 (e + 1))
  { value := 4 * b.mantissa * scale
    low := (4 * b.mantissa - step) * scale
    high := (4 * b.mantissa + 2) * scale
    den := den
    closed := b.mantissa % 2 = 0 }

/-- The exponent of the first digit of a positive rational. -/
def Ratio.floorLog10 (r : Ratio) : Int :=
  let e : Int := (digitCount r.num : Int) - (digitCount r.den : Int)
  if r.reaches 10 e then e else e - 1

/-- The interval on the grid of the multiples of `10 ^ e`: numerators over `den`, the grid being one. -/
def Interval.onGrid (i : Interval) : Int → Interval
  | .ofNat e => { i with den := i.den * Nat.pow 10 e }
  | .negSucc e =>
    let s := Nat.pow 10 (e + 1)
    { i with value := i.value * s, low := i.low * s, high := i.high * s }

/-- Whether the grid point `n` lies in the interval. -/
def Interval.holds (i : Interval) (n : Nat) : Bool :=
  let x := n * i.den
  if i.closed then i.low ≤ x && x ≤ i.high else i.low < x && x < i.high

/-- The grid point of the interval nearest to the double; of two equally near ones the even one. -/
def Interval.nearest? (i : Interval) : Option Nat :=
  let down := i.value / i.den
  let up := down + 1
  if i.holds down then
    if i.holds up then
      let below := i.value - down * i.den
      let above := up * i.den - i.value
      if below < above then some down
      else if above < below then some up
      else if down % 2 = 0 then some down
      else some up
    else some down
  else if i.holds up then some up
  else none

/-- Tries the grids of `count`, `count + 1`, … digits, `tries` of them. -/
def Interval.search (i : Interval) (first : Int) : Nat → Nat → Scientific
  | 0, count => ⟨i.value / i.den, first - count⟩
  | tries + 1, count =>
    let e := first - count + 1
    match (i.onGrid e).nearest? with
    | some n => ⟨n, e⟩
    | none => i.search first tries (count + 1)

/-- Moves the zeros at the end of the digits into the exponent; `fuel` bounds their number. -/
def Scientific.stripZeros : Nat → Scientific → Scientific
  | 0, s => s
  | fuel + 1, s =>
    if s.digits % 10 = 0 ∧ s.digits ≠ 0 then stripZeros fuel ⟨s.digits / 10, s.exponent + 1⟩ else s

/-- The shortest decimal that rounds to the magnitude of a double; of several the nearest. -/
def Binary.shortest (b : Binary) : Scientific :=
  if b.mantissa = 0 then ⟨0, 0⟩
  else
    let i := b.interval
    let first := (Ratio.mk i.value i.den).floorLog10
    Scientific.stripZeros 20 (i.search first 17 1)

/-- Which decimal exponents of the first digit are written without an exponent. -/
structure Layout where
  /-- The least such exponent. -/
  least : Int
  /-- The greatest such exponent. -/
  greatest : Int

/-- Writes a decimal by a layout. Written without an exponent it always has a fraction; with one, the
exponent is signed and a single digit has no point. -/
def Scientific.write (l : Layout) (s : Scientific) : List Char :=
  let digits := Nat.toDigits 10 s.digits
  let first : Int := s.exponent + digits.length - 1
  if s.digits = 0 then ['0', '.', '0']
  else if l.least ≤ first ∧ first ≤ l.greatest then
    match first with
    | .ofNat e =>
      let whole := digits.take (e + 1)
      let fraction := digits.drop (e + 1)
      whole ++ List.replicate (e + 1 - whole.length) '0' ++
        '.' :: (if fraction.isEmpty then ['0'] else fraction)
    | .negSucc e => '0' :: '.' :: (List.replicate e '0' ++ digits)
  else
    let mark : List Char :=
      match first with
      | .ofNat e => 'e' :: '+' :: Nat.toDigits 10 e
      | .negSucc e => 'e' :: '-' :: Nat.toDigits 10 (e + 1)
    match digits with
    | [] => mark
    | [d] => d :: mark
    | d :: r => d :: '.' :: (r ++ mark)

end DocLint.Decimal
