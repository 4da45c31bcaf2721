import DocLint.Text.Blank

/-!
# Natural numbers in text

Positions, indices and counts are written in decimal without leading zeros, and indices are read back
as any run of ASCII digits whose value fits a 64-bit word.
-/

namespace DocLint.Text

/-- An ASCII digit. -/
def isDigit (c : Char) : Bool :=
  '0' ≤ c && c ≤ '9'

/-- The value of an ASCII digit. -/
def digitValue (c : Char) : Nat :=
  c.toNat - 48

/-- The value of a run of ASCII digits, the most significant one first. -/
def digitsValue (cs : List Char) : Nat :=
  cs.foldl (fun n c => 10 * n + digitValue c) 0

/-- The value of an ASCII hexadecimal digit of either case. -/
def hexValue? (c : Char) : Option Nat :=
  if '0' ≤ c ∧ c ≤ '9' then some (c.toNat - 48)
  else if 'a' ≤ c ∧ c ≤ 'f' then some (c.toNat - 87)
  else if 'A' ≤ c ∧ c ≤ 'F' then some (c.toNat - 55)
  else none

/-- The value of a run of hexadecimal digits; none if another character stands among them. -/
def hexDigitsValue? (cs : List Char) : Option Nat :=
  cs.foldlM (fun n c => (hexValue? c).map (16 * n + ·)) 0

/-- The least number that no longer fits a 64-bit word. -/
def wordLimit : Nat := 18446744073709551616

/-- Reads a nonempty run of ASCII digits as a 64-bit number. -/
def word? (cs : List Char) : Option Nat :=
  if cs.isEmpty || !cs.all isDigit then none
  else
    let n := digitsValue cs
    if n < wordLimit then some n else none

/-- Reads a 64-bit number that may carry a plus sign. -/
def signedWord? : List Char → Option Nat
  | '+' :: cs => word? cs
  | cs => word? cs

/-- A natural number in decimal. -/
def decimal (n : Nat) : List Char :=
  Nat.toDigits 10 n

/-- A natural number in decimal, as text. -/
def ofNat (n : Nat) : String :=
  String.ofList (decimal n)

end DocLint.Text
