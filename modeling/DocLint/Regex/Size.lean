import DocLint.Regex.ByteRow
import Std.Data.HashMap

/-!
# How much a pattern takes up

A pattern is measured by the machine over bytes that it stands for: a machine that reads a text forward and
one that reads it backward, either of which must not take up more than ten mebibytes. Each state takes up 32
bytes, a range of bytes that it leads on by 8, and a state it branches to 4. Repetitions are written out.
-/

namespace DocLint.Regex

open DocLint.Text

/-- The direction in which a machine reads. -/
inductive Direction where
  /-- From the start to the end. -/
  | forward
  /-- From the end to the start. -/
  | backward
  deriving DecidableEq, Repr

/-- Words that share what they start with. A word may end between two chunks of branches. -/
inductive WordTree where
  /-- The chunks of branches, the last one first. -/
  | node (chunks : List (List (Nat × WordTree)))

namespace WordTree

/-- No words. -/
def empty : WordTree := node [[]]

/-- Whether nothing follows. -/
def isLeaf : WordTree → Bool
  | node chunks => chunks.all (·.isEmpty)

/-- Adds a word that ends here. -/
def addEnd : WordTree → WordTree
  | node chunks =>
    if chunks.all (·.isEmpty) && 1 < chunks.length then node chunks else node ([] :: chunks)

/-- The tree of one word. -/
def ofWord : List Nat → WordTree
  | [] => addEnd empty
  | b :: bs => node [[(b, ofWord bs)]]

/-- Changes the branch of a byte; a new branch is put in the order of the bytes. -/
def insertBranch (b : Nat) (fresh : WordTree) (change : WordTree → WordTree) :
    List (Nat × WordTree) → List (Nat × WordTree)
  | [] => [(b, fresh)]
  | (b', t) :: r =>
    if b < b' then (b, fresh) :: (b', t) :: r
    else if b = b' then (b', change t) :: r
    else (b', t) :: insertBranch b fresh change r

/-- Adds a word. -/
def add : List Nat → WordTree → WordTree
  | [], t => t.addEnd
  | b :: bs, node chunks =>
    let active := insertBranch b (ofWord bs) (add bs) (chunks.headD [])
    node (active :: chunks.tail)

end WordTree

/-- The states that an expression takes, for one direction. -/
inductive Layout where
  /-- States in a row. -/
  | row (count : Nat)
  /-- A choice of so many ranges of bytes. -/
  | ranges (count : Nat)
  /-- A class whose rows share what they start with. -/
  | tree (t : ByteTree)
  /-- A class whose rows share what they end with. -/
  | rows (rs : List (List ByteRange))
  /-- One of some words. -/
  | words (t : WordTree)
  /-- A group whose bounds are kept. -/
  | bounded (a : Layout)
  /-- One after the other. -/
  | inRow (parts : List Layout)
  /-- One of some. -/
  | choice (branches : List Layout)
  /-- A repetition, and whether the repeated part takes up text. -/
  | times (takesText : Bool) (least : Nat) (most : Option Nat) (a : Layout)

namespace Layout

/-- The bytes of a literal. -/
def bytes (cs : List Char) : List Nat := cs.flatMap fun c => encode c.toNat

/-- The characters of a literal. -/
def literal? : Expr → Option (List Char)
  | .literal cs => some cs
  | _ => none

/-- The tree of some words, as a machine reads them. -/
def wordTree (d : Direction) (words : List (List Char)) : WordTree :=
  words.foldl (fun t w => t.add (if d = .forward then bytes w else (bytes w).reverse)) WordTree.empty

mutual

/-- The layout of an expression. -/
def ofExpr (d : Direction) : Expr → Layout
  | .empty => row 1
  | .literal cs => row (byteLength cs)
  | .one k =>
    if k.isAscii then ranges k.intervals.length
    else if d = .forward then tree (ByteTree.ofSet k)
    else rows (ByteRow.ofSet k)
  | .look _ => row 1
  | .times _ least most a => times (a.leastBytes?.any (0 < ·)) least most (ofExpr d a)
  | .group _ a => if d = .forward then bounded (ofExpr d a) else ofExpr d a
  | .sequence parts =>
    let ls := ofExprs d parts
    inRow (if d = .forward then ls else ls.reverse)
  | .choice branches =>
    match branches.mapM literal? with
    | some ws => words (wordTree d ws)
    | none => choice (ofExprs d branches)

/-- The layouts of some expressions. -/
def ofExprs (d : Direction) : List Expr → List Layout
  | [] => []
  | a :: r => ofExpr d a :: ofExprs d r

end

end Layout

/-- How many states have been laid out, and how many bytes they take up on top of 32 each. -/
structure Tally where
  /-- The number of states. -/
  states : Nat
  /-- The bytes on top. -/
  extra : Nat

/-- The limit of a machine in bytes. -/
def sizeLimit : Nat := 10485760

/-- Laying out states one after the other, until the limit is passed. -/
abbrev Sizing := StateT Tally Option

namespace Sizing

/-- Goes on if the limit has not been passed. -/
def within (t : Tally) : Option Tally :=
  if 32 * t.states + t.extra ≤ sizeLimit then some t else none

/-- Adds a state that takes up some bytes on top, and gives its number. -/
def state (extra : Nat) : Sizing Nat := fun t =>
  (within ⟨t.states + 1, t.extra + extra⟩).map fun t' => (t.states, t')

/-- Adds some states of 32 bytes each. -/
def states (count : Nat) : Sizing Unit := fun t =>
  (within ⟨t.states + count, t.extra⟩).map fun t' => ((), t')

/-- Adds states that a state branches to. -/
def branch (count : Nat) : Sizing Unit := fun t =>
  (within ⟨t.states, t.extra + 4 * count⟩).map fun t' => ((), t')

/-- Continues what has been laid out; only a state that branches takes up more for it. -/
def link (branches : Bool) : Sizing Unit :=
  if branches then branch 1 else pure ()

/-- A step of the hash of numbers by which states are found again. -/
def hashStep (h n : UInt64) : UInt64 := (h ^^^ n) * 1099511628211

/-- The start of that hash. -/
def hashStart : UInt64 := 14695981039346656037

/-- The states that can be found again: for each hash the last state with it. -/
abbrev Found (α : Type) := Std.HashMap UInt64 (α × Nat)

/-- A range of bytes and the number of the state it leads to. -/
abbrev Lead := ByteRange × Nat

/-- The number of hashes of states that share what follows. -/
def leadSlots : UInt64 := 10000

/-- The number of hashes of states that share what comes before. -/
def rangeSlots : UInt64 := 1000

/-- The hash of the leads of a state. -/
def hashLeads (leads : List Lead) : UInt64 :=
  let h := leads.foldl (fun h (b, next) =>
    hashStep (hashStep (hashStep h b.low.toUInt64) b.high.toUInt64) next.toUInt64) hashStart
  h % leadSlots

/-- The state with some leads: one that is found again, or a new one. -/
def findLeads (leads : List Lead) : StateT (Found (List Lead)) Sizing Nat := do
  let h := hashLeads leads
  let found := (← get)[h]?
  match found.filter (·.1 == leads) with
  | some (_, n) => return n
  | none =>
    let n ← state (8 * leads.length)
    modify (·.insert h (leads, n))
    return n

mutual

/-- Lays out a tree of rows that leads to a state, what follows before what it follows. -/
def tree (target : Nat) : ByteTree → StateT (Found (List Lead)) Sizing Nat
  | .node [] => return target
  | .node branches => do findLeads (← treeLeads target branches)

/-- Lays out what follows some ranges. -/
def treeLeads (target : Nat) : List (ByteRange × ByteTree) → StateT (Found (List Lead)) Sizing (List Lead)
  | [] => return []
  | (b, t) :: r => do
    let n ← tree target t
    return (b, n) :: (← treeLeads target r)

end

/-- A range of bytes in front of a state: one that is found again, or a new one. -/
def findRange (b : ByteRange) (next : Nat) : StateT (Found Lead) Sizing Nat := do
  let h := hashStep (hashStep (hashStep hashStart next.toUInt64) b.low.toUInt64) b.high.toUInt64
  let h := h % rangeSlots
  let found := (← get)[h]?
  match found.filter (·.1 == (b, next)) with
  | some (_, n) => return n
  | none =>
    let n ← state 0
    modify (·.insert h ((b, next), n))
    return n

/-- Lays out rows that are read backward: the first byte leads to the end. -/
def rows (target : Nat) : List (List ByteRange) → StateT (Found Lead) Sizing Unit
  | [] => return ()
  | row :: rs => do
    let _ ← row.foldlM (fun next b => findRange b next) target
    let _ ← (branch 1 : Sizing Unit)
    rows target rs

mutual

/-- Lays out a tree of words: what follows before what it follows. -/
def words : WordTree → Sizing Unit
  | .node chunks => do
    let n ← chunksBefore chunks
    let _ ← state (4 * n)

/-- Lays out chunks of branches, given with the last one first, and tells to how many states they lead; a
word ends between two chunks. -/
def chunksBefore : List (List (Nat × WordTree)) → Sizing Nat
  | [] => return 0
  | chunk :: r => do
    let before ← chunksBefore r
    let ends := if r.isEmpty then 0 else 1
    wordsAfter chunk
    if chunk.isEmpty then return before + ends
    let _ ← state (if chunk.length = 1 then 0 else 8 * chunk.length)
    return before + ends + 1

/-- Lays out what follows the branches of a chunk. -/
def wordsAfter : List (Nat × WordTree) → Sizing Unit
  | [] => return ()
  | (_, t) :: r => do
    if !t.isLeaf then words t
    wordsAfter r

end

/-- Lays out something a number of times in a row, after something whose end may branch. -/
def copies (one : Sizing Bool) : Nat → Bool → Sizing Bool
  | 0, last => return last
  | n + 1, last => do
    let next ← one
    link last
    copies one n next

/-- Lays out something a number of times in a row. -/
def exactly (one : Sizing Bool) : Nat → Sizing Bool
  | 0 => do states 1; return false
  | n + 1 => do copies one n (← one)

/-- Lays out something at most once. -/
def optional (one : Sizing Bool) : Sizing Bool := do
  states 1
  let last ← one
  states 1
  branch 2
  link last
  return false

/-- Lays out something at least a number of times. -/
def atLeast (takesText : Bool) (one : Sizing Bool) : Nat → Sizing Bool
  | 0 => do
    if takesText then
      states 1
      let last ← one
      branch 1
      link last
      return true
    else
      let last ← one
      states 1
      link last
      states 2
      branch 4
      return false
  | 1 => do
    let last ← one
    states 1
    link last
    branch 1
    return true
  | n + 2 => do
    let before ← exactly one (n + 1)
    let last ← one
    states 1
    link before
    link last
    branch 1
    return true

/-- Lays out something that may be left out, a number of times in a row. -/
def extras (one : Sizing Bool) : Nat → Bool → Sizing Bool
  | 0, last => return last
  | n + 1, last => do
    states 1
    let next ← one
    link last
    branch 2
    extras one n next

/-- Lays out a repetition. -/
def repetition (takesText : Bool) (one : Sizing Bool) (least : Nat) : Option Nat → Sizing Bool
  | none => atLeast takesText one least
  | some most => do
    if least = 0 ∧ most = 1 then optional one
    else if least = most then exactly one least
    else
      let before ← exactly one least
      states 1
      link (← extras one (most - least) before)
      return false

mutual

/-- Lays out an expression, and tells whether its last state branches. -/
def layout : Layout → Sizing Bool
  | .row count => do states count; return false
  | .ranges count => do
    states 1
    let _ ← state (8 * count)
    return false
  | .tree t => do
    let target ← state 0
    let _ ← (tree target t).run ∅
    return false
  | .rows rs => do
    states 1
    let target ← state 0
    let _ ← (rows target rs).run ∅
    return false
  | .words t => do
    states 1
    words t
    return false
  | .bounded a => do
    states 1
    let last ← layout a
    states 1
    link last
    return false
  | .inRow [] => do states 1; return false
  | .inRow (a :: r) => do inRow r (← layout a)
  | .choice branches => do choice 0 branches; return false
  | .times takesText least most a => repetition takesText (layout a) least most

/-- Lays out parts in a row, after something whose end may branch. -/
def inRow : List Layout → Bool → Sizing Bool
  | [], last => return last
  | a :: r, last => do
    let next ← layout a
    link last
    inRow r next

/-- Lays out branches; the state that branches and the one where they meet come after the second. -/
def choice (count : Nat) : List Layout → Sizing Unit
  | [] => return ()
  | a :: r => do
    let last ← layout a
    if count = 1 then states 2
    branch 1
    link last
    choice (count + 1) r

end

/-- Lays out the machine of an expression: a loop in front of it, unless it stands at the edge of the text,
and a state for a match after it. -/
def machine (d : Direction) (e : Expr) : Sizing Unit := do
  let anchored := if d = .forward then e.startsAt .textStart else e.endsAt .textEnd
  if anchored then states 1
  else
    states 2
    let _ ← state 8
    branch 2
  let last ← layout (.ofExpr d (if d = .forward then .group 0 e else e))
  states 1
  link last

end Sizing

/-- Whether the machines of an expression fit into the limit. -/
def Expr.fits (e : Expr) : Bool :=
  [Direction.forward, Direction.backward].all fun d => ((Sizing.machine d e).run ⟨0, 0⟩).isSome

end DocLint.Regex
