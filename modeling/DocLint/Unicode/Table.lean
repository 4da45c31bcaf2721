import DocLint.Unicode.Folding

/-!
# Tables

A table is what the Unicode standard lists, or a set that it derives from what it lists. A table is
only a description; its characters are computed when they are asked for.
-/

namespace DocLint.Unicode

open DocLint.Text

/-- A set of characters, described by what the standard lists. -/
inductive Table where
  /-- The runs of some lines. -/
  | runs (lines : List String)
  /-- The characters that fold to another one. -/
  | foldSources
  /-- The characters that another one folds to. -/
  | foldTargets
  /-- The characters of either table. -/
  | union (a b : Table)
  /-- The characters of both tables. -/
  | inter (a b : Table)
  /-- The characters of the first table alone. -/
  | diff (a b : Table)
  /-- The characters of no table. -/
  | compl (a : Table)

namespace Table

/-- The characters of any of some tables. -/
def unionAll (ts : List Table) : Table :=
  ts.foldr union (runs [])

/-- The characters of a table. -/
def set : Table → CharSet
  | runs lines => CharSet.ofIntervals ((Run.decode lines).flatMap Run.intervals)
  | foldSources => Unicode.foldSources ()
  | foldTargets => Unicode.foldTargets ()
  | union a b => a.set.union b.set
  | inter a b => a.set.inter b.set
  | diff a b => a.set.diff b.set
  | compl a => a.set.compl

end Table

end DocLint.Unicode
