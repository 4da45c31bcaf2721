import DocLint.Regex.CharClass

/-!
# Regular expressions

Expressions over characters with conditions on the place between two characters. The functions that build
them keep them in a normal form: characters in a row are one literal, sequences and choices are not nested
in their own kind, a choice of characters is a class, and what all branches of a choice start with stands
in front of it. How much an expression takes up depends on that form.
-/

namespace DocLint.Regex

open DocLint.Text

/-- A condition on a place in a text. -/
inductive Look where
  /-- The start of the text. -/
  | textStart
  /-- The end of the text. -/
  | textEnd
  /-- The start of a line that a line feed ends. -/
  | lineStart
  /-- The end of such a line. -/
  | lineEnd
  /-- The start of a line that a line feed, a carriage return or both end. -/
  | anyLineStart
  /-- The end of such a line. -/
  | anyLineEnd
  /-- The edge of a word. -/
  | wordEdge (unicode : Bool)
  /-- A place that is no edge of a word. -/
  | noWordEdge (unicode : Bool)
  /-- The start of a word. -/
  | wordStart (unicode : Bool)
  /-- The end of a word. -/
  | wordEnd (unicode : Bool)
  /-- A place that no word character precedes. -/
  | wordStartHalf (unicode : Bool)
  /-- A place that no word character follows. -/
  | wordEndHalf (unicode : Bool)
  deriving DecidableEq, Repr, Hashable

/-- A regular expression. -/
inductive Expr where
  /-- The empty text. -/
  | empty
  /-- Some characters in a row, at least one. -/
  | literal (cs : List Char)
  /-- One character of a class. -/
  | one (k : CharSet)
  /-- The empty text, at a place that satisfies a condition. -/
  | look (l : Look)
  /-- An expression, at least `least` and at most `most` times. -/
  | times (greedy : Bool) (least : Nat) (most : Option Nat) (a : Expr)
  /-- A numbered group. -/
  | group (number : Nat) (a : Expr)
  /-- Expressions in a row, at least two. -/
  | sequence (parts : List Expr)
  /-- One of some expressions, at least two. -/
  | choice (branches : List Expr)

/-- The number of bytes of a character. -/
def byteCount (n : Nat) : Nat :=
  if n ≤ 0x7F then 1 else if n ≤ 0x7FF then 2 else if n ≤ 0xFFFF then 3 else 4

/-- The number of bytes of some characters. -/
def byteLength (cs : List Char) : Nat := cs.foldl (fun n c => n + byteCount c.toNat) 0

namespace Expr

mutual

/-- Whether two expressions are the same. -/
def same : Expr → Expr → Bool
  | empty, empty => true
  | literal a, literal b => a == b
  | one a, one b => a == b
  | look a, look b => a == b
  | times g l m a, times g' l' m' b => g == g' && l == l' && m == m' && same a b
  | group n a, group n' b => n == n' && same a b
  | sequence as, sequence bs => sameAll as bs
  | choice as, choice bs => sameAll as bs
  | _, _ => false

/-- Whether two lists of expressions are the same. -/
def sameAll : List Expr → List Expr → Bool
  | [], [] => true
  | a :: as, b :: bs => same a b && sameAll as bs
  | _, _ => false

end

mutual

/-- The least number of bytes of a text that satisfies an expression; none if no text may. -/
def leastBytes? : Expr → Option Nat
  | empty => some 0
  | literal cs => some (byteLength cs)
  | one k => k.intervals.head?.map fun i => byteCount i.low
  | look _ => some 0
  | times _ least _ a => a.leastBytes?.map (· * least)
  | group _ a => a.leastBytes?
  | sequence parts => leastOfParts? parts
  | choice branches => leastOfBranches? branches

/-- The least number of bytes of a text that satisfies some expressions in a row. -/
def leastOfParts? : List Expr → Option Nat
  | [] => some 0
  | a :: r => do return (← a.leastBytes?) + (← leastOfParts? r)

/-- The least number of bytes of a text that satisfies one of some expressions; none if one of them has
none. -/
def leastOfBranches? : List Expr → Option Nat
  | [] => none
  | [a] => a.leastBytes?
  | a :: r => do return min (← a.leastBytes?) (← leastOfBranches? r)

end

mutual

/-- The greatest number of bytes of a text that satisfies an expression; none if there is no limit. -/
def mostBytes? : Expr → Option Nat
  | empty => some 0
  | literal cs => some (byteLength cs)
  | one k => k.intervals.getLast?.map fun i => byteCount i.high
  | look _ => some 0
  | times _ _ most a => do return (← a.mostBytes?) * (← most)
  | group _ a => a.mostBytes?
  | sequence parts => mostOfParts? parts
  | choice branches => mostOfBranches? branches

/-- The greatest number of bytes of a text that satisfies some expressions in a row. -/
def mostOfParts? : List Expr → Option Nat
  | [] => some 0
  | a :: r => do return (← a.mostBytes?) + (← mostOfParts? r)

/-- The greatest number of bytes of a text that satisfies one of some expressions. -/
def mostOfBranches? : List Expr → Option Nat
  | [] => none
  | [a] => a.mostBytes?
  | a :: r => do return max (← a.mostBytes?) (← mostOfBranches? r)

end

mutual

/-- Whether every text that satisfies an expression satisfies a condition where it starts. -/
def startsAt (l : Look) : Expr → Bool
  | look l' => l == l'
  | times _ least _ a => 0 < least && a.startsAt l
  | group _ a => a.startsAt l
  | sequence parts => partsStartAt l parts
  | choice branches => branchesStartAt l branches
  | _ => false

/-- Whether a condition is among those in front of some expressions in a row. -/
def partsStartAt (l : Look) : List Expr → Bool
  | [] => false
  | a :: r => a.startsAt l || (a.mostBytes? == some 0 && partsStartAt l r)

/-- Whether a condition is in front of each of some expressions. -/
def branchesStartAt (l : Look) : List Expr → Bool
  | [] => true
  | a :: r => a.startsAt l && branchesStartAt l r

end

mutual

/-- Whether every text that satisfies an expression satisfies a condition where it ends. -/
def endsAt (l : Look) : Expr → Bool
  | look l' => l == l'
  | times _ least _ a => 0 < least && a.endsAt l
  | group _ a => a.endsAt l
  | sequence parts => partsEndAt l parts
  | choice branches => branchesEndAt l branches
  | _ => false

/-- Whether a condition is among those at the end of some expressions in a row. -/
def partsEndAt (l : Look) : List Expr → Bool
  | [] => false
  | a :: r => partsEndAt l r || (mostOfParts? r == some 0 && a.endsAt l)

/-- Whether a condition is at the end of each of some expressions. -/
def branchesEndAt (l : Look) : List Expr → Bool
  | [] => true
  | a :: r => a.endsAt l && branchesEndAt l r

end

/-- One character of a class; a class of one character is a literal. -/
def ofSet (k : CharSet) : Expr :=
  match k.only? with
  | some c => literal [c]
  | none => one k

/-- Joins literals next to each other. -/
def joinLiterals : List Expr → List Expr
  | [] => []
  | literal cs :: r =>
    match joinLiterals r with
    | literal ds :: r' => literal (cs ++ ds) :: r'
    | r' => literal cs :: r'
  | a :: r => a :: joinLiterals r

/-- The parts that an expression has as a part of a sequence. -/
def asParts : Expr → List Expr
  | empty => []
  | sequence parts => parts
  | a => [a]

/-- The branches that an expression has as a branch of a choice. -/
def asBranches : Expr → List Expr
  | choice branches => branches
  | a => [a]

/-- Expressions in a row. -/
def inRow (as : List Expr) : Expr :=
  match joinLiterals (as.flatMap asParts) with
  | [] => empty
  | [a] => a
  | parts => sequence parts

/-- The only character of a literal. -/
def onlyChar? : Expr → Option CharSet
  | literal [c] => some (CharSet.single c)
  | _ => none

/-- The class of an expression. -/
def class? : Expr → Option CharSet
  | one k => some k
  | _ => none

/-- One of some expressions that have nothing in common in front. -/
def oneOf (as : List Expr) : Expr :=
  match as.flatMap asBranches with
  | [] => one CharSet.empty
  | [a] => a
  | branches =>
    match branches.mapM onlyChar? with
    | some ks => ofSet (CharSet.unionAll ks)
    | none =>
      match branches.mapM class? with
      | some ks => ofSet (CharSet.unionAll ks)
      | none => choice branches

/-- The parts of a sequence. -/
def parts? : Expr → Option (List Expr)
  | sequence parts => some parts
  | _ => none

/-- The number of parts that two sequences start with in common. -/
def commonCount : List Expr → List Expr → Nat
  | a :: as, b :: bs => if same a b then commonCount as bs + 1 else 0
  | _, _ => 0

/-- One of some expressions. What they start with in common is put in front. -/
def oneOfFactored (as : List Expr) : Expr :=
  match oneOf as with
  | choice branches =>
    match branches.mapM parts? with
    | some (first :: others) =>
      let n := (others.map (commonCount first)).foldl min first.length
      if n = 0 then choice branches
      else inRow (first.take n ++ [oneOf ((first :: others).map fun p => inRow (p.drop n))])
    | _ => choice branches
  | a => a

/-- An expression repeated. The empty text is not repeated more than once. -/
def repeated (greedy : Bool) (least : Nat) (most : Option Nat) (a : Expr) : Expr :=
  let isEmpty := a.mostBytes? == some 0
  let least := if isEmpty then min least 1 else least
  let most := if isEmpty then some (min (most.getD 1) 1) else most
  if least = 0 ∧ most = some 0 then empty
  else if least = 1 ∧ most = some 1 then a
  else times greedy least most a

end Expr

end DocLint.Regex
