import DocLint.Text.Natural
import DocLint.Decimal.Scaling
import DocLint.Decimal.Shortest
import DocLint.Json.Fault

/-!
# JSON numbers

A literal without fraction and exponent is an integer if it fits a signed or an unsigned 64-bit word;
`-0` does not count as one. Every other literal is a double, found as `serde_json` finds it by default: as
many digits as fit 64 bits are made a double, which is then scaled by a power of ten. That is not always
the double nearest to the literal, and near the greatest double it decides whether there is one at all.

An integer is written as its decimal digits, a double by the shortest digits that read back.
-/

namespace DocLint.Json

open DocLint.Text DocLint.Decimal

/-- A number: an integer of 64 bits, signed or unsigned, or a double. -/
inductive Number where
  /-- An integer. -/
  | integer (value : Int)
  /-- A double. -/
  | double (value : Binary)
  deriving DecidableEq, Repr

/-- The characters that a number literal is made of. -/
def isNumberChar (c : Char) : Bool :=
  isDigit c || c = '-' || c = '+' || c = '.' || c = 'e' || c = 'E'

/-- Whether an integer fits a signed or an unsigned 64-bit word. -/
def fitsWord (n : Int) : Bool :=
  -9223372036854775808 ≤ n && n < 18446744073709551616

/-- The parts of a number literal. -/
structure Literal where
  /-- Whether it starts with a minus sign. -/
  negative : Bool
  /-- The digits before the point. -/
  whole : List Char
  /-- The digits after the point, if there is one. -/
  fraction : Option (List Char)
  /-- The exponent, if there is one: its sign and its digits. -/
  exponent : Option (Bool × List Char)
  deriving DecidableEq, Repr

/-- Splits a literal at its sign, its point and its exponent mark. -/
def Literal.split (cs : List Char) : Literal :=
  let negative := cs.head? = some '-'
  let body := if negative then cs.tail else cs
  let whole := body.takeWhile isDigit
  let rest := body.dropWhile isDigit
  let fraction := if rest.head? = some '.' then some (rest.tail.takeWhile isDigit) else none
  let rest := if rest.head? = some '.' then rest.tail.dropWhile isDigit else rest
  let exponent :=
    match rest with
    | [] => none
    | _ :: r =>
      if r.head? = some '-' then some (true, r.tail)
      else if r.head? = some '+' then some (false, r.tail)
      else some (false, r)
  ⟨negative, whole, fraction, exponent⟩

/-- The value of the exponent digits, with its sign. -/
def Literal.exponentValue (l : Literal) : Int :=
  match l.exponent with
  | none => 0
  | some (true, ds) => -(digitsValue ds : Int)
  | some (false, ds) => digitsValue ds

/-- Takes digits into a significand as long as it fits an unsigned 64-bit word. Gives the significand and the
digits left. -/
def takeDigits (value : Nat) : List Char → Nat × List Char
  | [] => (value, [])
  | c :: r =>
    let next := 10 * value + digitValue c
    if next < 18446744073709551616 then takeDigits next r else (value, c :: r)

/-- The digits of a literal that count. -/
structure Significand where
  /-- Their value. -/
  value : Nat
  /-- The power of ten that the last of them counts. -/
  place : Int
  deriving DecidableEq, Repr

/-- The significand of a literal. Digits that do not fit are dropped; before the point they still count as
places, and digits behind the point are tried again. -/
def Literal.significand (l : Literal) : Significand :=
  let (whole, dropped) := takeDigits 0 l.whole
  let fraction := l.fraction.getD []
  let (value, left) := takeDigits whole fraction
  ⟨value, (dropped.length : Int) - ((fraction.length : Int) - left.length)⟩

/-- The power of ten that a significand is scaled by. An exponent that does not fit a signed 32-bit word
counts alone. -/
def Literal.scale (l : Literal) : Int :=
  if l.exponentValue.natAbs ≤ 2147483647 then l.significand.place + l.exponentValue
  else l.exponentValue

/-- The double that a literal stands for; none if it is too large. -/
def Literal.double? (l : Literal) : Option Binary :=
  Binary.ofScaled? l.negative l.significand.value l.scale

/-- The integer that a literal without fraction and exponent stands for, if it fits. -/
def Literal.integer? (l : Literal) : Option Int :=
  if l.fraction.isSome || l.exponent.isSome then none
  else
    let n := digitsValue l.whole
    if l.negative then
      if n ≠ 0 ∧ fitsWord (-(n : Int)) then some (-(n : Int)) else none
    else if fitsWord n then some n else none

/-- The number that a literal of the grammar stands for; none if it is too large for a double. -/
def Number.ofLiteral? (cs : List Char) : Option Number :=
  let l := Literal.split cs
  match l.integer? with
  | some n => some (.integer n)
  | none => l.double?.map .double

/-- The number of digits up to the one with which their value leaves the signed 32-bit words, if it does.
`value` is the value of the digits before. -/
def excess? (value : Nat) : List Char → Option Nat
  | [] => none
  | c :: r =>
    let value := 10 * value + digitValue c
    if 2147483647 < value then some 1 else (excess? value r).map (· + 1)

/-- What of a literal too large for a double is left where that shows: nothing, unless its exponent is too
large by itself. -/
def Literal.excessRest (cs : List Char) : List Char :=
  match (Literal.split cs).exponent with
  | some (false, ds) =>
    match excess? 0 ds with
    | some n => ds.drop n
    | none => []
  | _ => []

/-- Doubles from `0.00001` up to below `10 ^ 16` are written without an exponent. -/
def Number.layout : Layout := ⟨-5, 15⟩

/-- The text of an integer. -/
def integerText : Int → List Char
  | .ofNat n => decimal n
  | .negSucc n => '-' :: decimal (n + 1)

/-- The text of a number. -/
def Number.chars : Number → List Char
  | .integer n => integerText n
  | .double b =>
    let digits := b.shortest.write Number.layout
    if b.negative then '-' :: digits else digits

/-- The text of a number. -/
def Number.text (n : Number) : String :=
  String.ofList n.chars

end DocLint.Json
