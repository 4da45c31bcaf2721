/-!
# Sets of characters

A set of characters is kept as the runs of their numbers, in order and with a gap between any two of them.
The numbers of surrogates are no characters: a run may go across them, and the numbers before and after
them count as neighbours where a set is complemented.
-/

namespace DocLint.Text

/-- The numbers from one to another. -/
structure Interval where
  /-- The first number. -/
  low : Nat
  /-- The last number. -/
  high : Nat
  deriving DecidableEq, Repr

/-- A set of characters. -/
structure CharSet where
  /-- The runs, in order and apart from each other. -/
  intervals : List Interval
  deriving DecidableEq, Repr

namespace CharSet

/-- The last number of a character. -/
def lastNumber : Nat := 0x10FFFF

/-- The number of the next character. -/
def next (n : Nat) : Nat := if n = 0xD7FF then 0xE000 else n + 1

/-- The number of the character before. -/
def prev (n : Nat) : Nat := if n = 0xE000 then 0xD7FF else n - 1

/-- Joins runs that overlap or touch with a run in front of them; the runs are ordered by their first
numbers. -/
def joinFrom (s : Interval) : List Interval → List Interval
  | [] => [s]
  | t :: r =>
    if t.low ≤ s.high + 1 then joinFrom ⟨s.low, max s.high t.high⟩ r else s :: joinFrom t r

/-- The set of the numbers of some runs in any order. -/
def ofIntervals (intervals : List Interval) : CharSet :=
  match intervals.mergeSort (fun s t => s.low ≤ t.low) with
  | [] => ⟨[]⟩
  | s :: r => ⟨joinFrom s r⟩

/-- No character. -/
def empty : CharSet := ⟨[]⟩

/-- Every character. -/
def all : CharSet := ⟨[⟨0, lastNumber⟩]⟩

/-- The characters from one number to another. -/
def span (low high : Nat) : CharSet := ⟨[⟨low, high⟩]⟩

/-- One character. -/
def single (c : Char) : CharSet := span c.toNat c.toNat

/-- Whether a set has a character of a number. -/
def holds (s : CharSet) (n : Nat) : Bool :=
  s.intervals.any fun t => t.low ≤ n && n ≤ t.high

/-- Whether every character of a set is ASCII. -/
def isAscii (s : CharSet) : Bool := s.intervals.all (·.high ≤ 0x7F)

/-- The characters of either set. -/
def union (a b : CharSet) : CharSet := ofIntervals (a.intervals ++ b.intervals)

/-- The characters of any of some sets. -/
def unionAll (sets : List CharSet) : CharSet := ofIntervals (sets.flatMap (·.intervals))

/-- The runs between some runs, from a number on. -/
def gapsFrom (start : Nat) : List Interval → List Interval
  | [] => if start ≤ lastNumber then [⟨start, lastNumber⟩] else []
  | s :: r =>
    if start < s.low then ⟨start, prev s.low⟩ :: gapsFrom (next s.high) r
    else gapsFrom (next s.high) r

/-- The characters outside of a set. -/
def compl (s : CharSet) : CharSet := ⟨gapsFrom 0 s.intervals⟩

/-- The common parts of two lists of runs. -/
def overlaps : List Interval → List Interval → List Interval
  | [], _ => []
  | _ :: _, [] => []
  | s :: ss, t :: ts =>
    let low := max s.low t.low
    let high := min s.high t.high
    let rest := if s.high < t.high then overlaps ss (t :: ts) else overlaps (s :: ss) ts
    if low ≤ high then ⟨low, high⟩ :: rest else rest
termination_by a b => a.length + b.length

/-- The characters of both sets. -/
def inter (a b : CharSet) : CharSet := ⟨overlaps a.intervals b.intervals⟩

/-- The characters of the first set alone. -/
def diff (a b : CharSet) : CharSet := a.inter b.compl

/-- The characters of exactly one set. -/
def symmDiff (a b : CharSet) : CharSet := (a.union b).diff (a.inter b)

/-- The only character of a set; none if there are more or none. -/
def only? (s : CharSet) : Option Char :=
  match s.intervals with
  | [t] => if t.low = t.high then some (Char.ofNat t.low) else none
  | _ => none

end CharSet

end DocLint.Text
