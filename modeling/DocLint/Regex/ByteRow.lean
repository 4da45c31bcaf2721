import DocLint.Regex.Expr

/-!
# Classes as rows of bytes

The characters of a class, each written as one to four bytes, are the texts of some rows: a row has a range
for each byte. Rows come in the order of the characters, and a tree of rows shares what rows next to each
other start with.
-/

namespace DocLint.Regex

open DocLint.Text

/-- The bytes from one to another. -/
structure ByteRange where
  /-- The first byte. -/
  low : Nat
  /-- The last byte. -/
  high : Nat
  deriving DecidableEq, Repr, Hashable

/-- The bytes of the character with a number. -/
def encode (n : Nat) : List Nat :=
  let more (shift : Nat) : Nat := 0x80 + n / shift % 64
  if n ≤ 0x7F then [n]
  else if n ≤ 0x7FF then [0xC0 + n / 64, more 1]
  else if n ≤ 0xFFFF then [0xE0 + n / 4096, more 64, more 1]
  else [0xF0 + n / 262144, more 4096, more 64, more 1]

namespace ByteRow

/-- Where an interval has to be cut for the numbers below `unit` to run through all of them: the last number
of the first part. -/
def cutAt? (unit : Nat) (i : Interval) : Option Nat :=
  if i.low / unit = i.high / unit then none
  else if i.low % unit ≠ 0 then some (i.low / unit * unit + (unit - 1))
  else if i.high % unit ≠ unit - 1 then some (i.high / unit * unit - 1)
  else none

/-- Where an interval has to be cut to be one row: at the surrogates, at the lengths of characters, and where
a byte does not run through all its values. -/
def cut? (i : Interval) : Option (Nat × Nat) :=
  if i.low < 0xE000 ∧ 0xD7FF < i.high then some (0xD7FF, 0xE000)
  else
    match [0x7F, 0x7FF, 0xFFFF].find? fun n => i.low ≤ n ∧ n < i.high with
    | some n => some (n, n + 1)
    | none =>
      if i.high ≤ 0x7F then none
      else ([64, 4096, 262144].findSome? (cutAt? · i)).map fun n => (n, n + 1)

/-- The rows of an interval that is cut at most `fuel` times in depth. -/
def ofIntervalWithin : Nat → Interval → List (List ByteRange)
  | 0, _ => []
  | fuel + 1, i =>
    if i.high < i.low then []
    else
      match cut? i with
      | some (last, first) =>
        ofIntervalWithin fuel ⟨i.low, last⟩ ++ ofIntervalWithin fuel ⟨first, i.high⟩
      | none => [(encode i.low).zipWith ByteRange.mk (encode i.high)]

/-- The rows of an interval. -/
def ofInterval (i : Interval) : List (List ByteRange) := ofIntervalWithin 64 i

/-- The rows of a class. -/
def ofSet (k : CharSet) : List (List ByteRange) := k.intervals.flatMap ofInterval

end ByteRow

/-- Rows of bytes that share what they start with. -/
inductive ByteTree where
  /-- The ends of rows, or the ranges that come next with what follows each of them. -/
  | node (branches : List (ByteRange × ByteTree))

namespace ByteTree

/-- Groups rows next to each other that start with the same range. -/
def groups : List (List ByteRange) → List (ByteRange × List (List ByteRange))
  | [] => []
  | [] :: rows => groups rows
  | (b :: row) :: rows =>
    match groups rows with
    | (b', rest) :: gs => if b = b' then (b, row :: rest) :: gs else (b, [row]) :: (b', rest) :: gs
    | [] => [(b, [row])]

/-- The tree of some rows of at most `length` bytes. -/
def ofRowsWithin : Nat → List (List ByteRange) → ByteTree
  | 0, _ => node []
  | length + 1, rows => node ((groups rows).map fun g => (g.1, ofRowsWithin length g.2))

/-- The tree of a class. -/
def ofSet (k : CharSet) : ByteTree := ofRowsWithin 4 (ByteRow.ofSet k)

end ByteTree

end DocLint.Regex
