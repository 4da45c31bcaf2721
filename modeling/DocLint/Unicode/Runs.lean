import DocLint.Text.CharSet
import DocLint.Text.Natural

/-!
# Runs of characters as text

The tables of the Unicode standard, in its version 16, are kept as texts: runs of characters in
hexadecimal, separated by blanks. `41` is one character, `41-5a` a run, and `100-12e/2` takes every second
character of a run.
-/

namespace DocLint.Unicode

open DocLint.Text

/-- A run of characters: every `step`-th number from `low` to `high`. -/
structure Run where
  /-- The first number. -/
  low : Nat
  /-- The last number. -/
  high : Nat
  /-- The distance of neighbours. -/
  step : Nat
  deriving DecidableEq, Repr

/-- The numbers of a run. -/
def Run.numbers (r : Run) : List Nat :=
  (List.range ((r.high - r.low) / r.step + 1)).map fun i => r.low + i * r.step

/-- The numbers of a run as intervals. -/
def Run.intervals (r : Run) : List Interval :=
  if r.step = 1 then [⟨r.low, r.high⟩] else r.numbers.map fun n => ⟨n, n⟩

/-- The number that the hexadecimal digits in front of a text stand for. -/
def hexFront (cs : List Char) : Nat :=
  (hexDigitsValue? (cs.takeWhile fun c => (hexValue? c).isSome)).getD 0

/-- Reads one run. -/
def Run.read (word : List Char) : Run :=
  let low := hexFront word
  let rest := word.dropWhile fun c => (hexValue? c).isSome
  match rest with
  | '-' :: r =>
    let step := match r.dropWhile (· ≠ '/') with
      | _ :: d => hexFront d
      | [] => 1
    ⟨low, hexFront r, step⟩
  | _ => ⟨low, low, 1⟩

/-- Splits a line at its blanks. -/
def words (line : String) : List (List Char) :=
  (line.toList.splitOn ' ').filter (!·.isEmpty)

/-- Reads the lines of a table. -/
def Run.decode (lines : List String) : List Run :=
  lines.flatMap fun l => (words l).map Run.read

end DocLint.Unicode
